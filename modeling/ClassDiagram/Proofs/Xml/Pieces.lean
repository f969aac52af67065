import ClassDiagram.Proofs.Xml.Attributes
import ClassDiagram.Xml.Markup

/-!
# Written markup is delimited

A tag that was written ends at its own `>`, since every other angle in it stands
between quotes, and a comment at the first `>` after two hyphens that is not part
of its text.  `Markup.read` thus splits off each piece of markup as it was
written.
-/

namespace ClassDiagram.Xml

/-! ## The end of a tag -/

/-- Bytes that a scan passes over are cut off before the byte that ends it. -/
theorem cut_of_foldlM {σ : Type} {step : σ → UInt8 → Option σ} {state state' : σ}
    {bytes rest : Bytes} {byte : UInt8} (h : bytes.foldlM step state = some state')
    (hend : step state' byte = none) :
    cut step state (bytes ++ byte :: rest) = some (bytes, rest) := by
  induction bytes generalizing state with
  | nil =>
      obtain rfl := Option.some.inj h
      rw [List.nil_append, cut, hend]
  | cons first bytes ih =>
      rw [List.foldlM_cons] at h
      obtain ⟨next, hstep, h⟩ := Option.bind_eq_some_iff.1 h
      rw [List.cons_append, cut, hstep]
      show (cut step next (bytes ++ byte :: rest)).map _ = _
      rw [ih h]
      rfl

/-- A scan goes on after the first byte in the state that this byte leads to. -/
theorem foldlM_cons_eq {σ : Type} {step : σ → UInt8 → Option σ} {state next : σ} {byte : UInt8}
    {bytes : Bytes} (h : step state byte = some next) :
    (byte :: bytes).foldlM step state = bytes.foldlM step next := by
  rw [List.foldlM_cons, h]
  rfl

/-- A scan over bytes is a scan over their first part and then over the rest. -/
theorem foldlM_append_eq {σ : Type} {step : σ → UInt8 → Option σ} {state state' : σ}
    {bytes bytes' : Bytes} (h : bytes.foldlM step state = some state') :
    (bytes ++ bytes').foldlM step state = bytes'.foldlM step state' := by
  rw [List.foldlM_append, h]
  rfl

theorem foldlM_tagStep_plain {bytes : Bytes} (h : ∀ byte ∈ bytes, plainByte byte = true) :
    bytes.foldlM tagStep none = some none := by
  induction bytes with
  | nil => rfl
  | cons byte bytes ih =>
      obtain ⟨-, hquote, hsigns⟩ := plainByte_iff.1 (h byte List.mem_cons_self)
      have hclose : byte ≠ closeAngle := by
        rintro rfl
        exact hsigns (by decide)
      have hstep : tagStep none byte = some none := by simp [tagStep, hclose, hquote]
      rw [foldlM_cons_eq hstep]
      exact ih fun other hother => h other (List.mem_cons_of_mem byte hother)

theorem foldlM_tagStep_quoted {mark : UInt8} {bytes : Bytes} (h : ∀ byte ∈ bytes, byte ≠ mark) :
    bytes.foldlM tagStep (some mark) = some (some mark) := by
  induction bytes with
  | nil => rfl
  | cons byte bytes ih =>
      have hstep : tagStep (some mark) byte = some (some mark) := by
        simp [tagStep, h byte List.mem_cons_self]
      rw [foldlM_cons_eq hstep]
      exact ih fun other hother => h other (List.mem_cons_of_mem byte hother)

/-- After the attributes of a tag no quote is open. -/
theorem foldlM_tagStep_attributes {attributes : List (String × String)} {written : List Char}
    (h : WritesAttributes attributes written) :
    (Utf8.encode written).foldlM tagStep none = some none := by
  induction h with
  | nil => rfl
  | cons hkey hquote hvalue _ ih =>
      obtain ⟨mark, hmark, hisQuote, hnot⟩ := encode_quote hquote
      have hclose : mark ≠ closeAngle := by
        rintro rfl
        simp [isQuote, closeAngle] at hisQuote
      have hopen : tagStep none mark = some (some mark) := by
        simp [tagStep, hclose, hisQuote]
      have hshut : tagStep (some mark) mark = some none := by simp [tagStep]
      have hspace : tagStep none 0x20 = some none := by decide
      have hequals : tagStep none equals = some none := by decide
      rw [encode_attribute hmark, foldlM_cons_eq hspace,
        foldlM_append_eq (foldlM_tagStep_plain (plain_of_isName hkey)), foldlM_cons_eq hequals,
        foldlM_cons_eq hopen,
        foldlM_append_eq (foldlM_tagStep_quoted (hnot (noQuote_writesValue hvalue))),
        foldlM_cons_eq hshut, ih]

/-- The attributes of a tag do not end in a slash. -/
theorem getLast?_ne_slash {attributes : List (String × String)} {written : List Char}
    (h : WritesAttributes attributes written) {bytes : Bytes}
    (hbytes : bytes.getLast? ≠ some slash) :
    (bytes ++ Utf8.encode written).getLast? ≠ some slash := by
  induction h generalizing bytes with
  | nil => simpa using hbytes
  | @cons key value attributes quote written rest _ hquote _ _ ih =>
      obtain ⟨mark, hmark, hisQuote, -⟩ := encode_quote hquote
      have hslash : mark ≠ slash := by
        rintro rfl
        simp [isQuote, slash] at hisQuote
      have hlast : (bytes ++ 0x20 :: (Utf8.encode key.toList ++
          equals :: mark :: Utf8.encode written) ++ [mark]).getLast? ≠ some slash := by
        rw [List.getLast?_concat]
        exact fun heq => hslash (Option.some.inj heq)
      rw [encode_attribute hmark]
      have hall := ih hlast
      simpa using hall

/-- The bytes of a tag start with a plain byte, close all quotes and do not end in a slash. -/
theorem bytes_of_writesTag {node : Node} {tag : List Char} (h : WritesTag node tag) :
    (∃ first, (Utf8.encode tag).head? = some first ∧ plainByte first = true) ∧
      (Utf8.encode tag).foldlM tagStep none = some none ∧
      (Utf8.encode tag).getLast? ≠ some slash := by
  obtain @⟨attributes, hname, hattributes⟩ := h
  obtain ⟨first, rest, hencode, hfirst, -⟩ := encode_isName hname
  have hplain := plain_of_isName hname
  refine ⟨⟨first, ?_, hfirst⟩, ?_, ?_⟩
  · rw [Utf8.encode_append, hencode]
    rfl
  · rw [Utf8.encode_append, foldlM_append_eq (foldlM_tagStep_plain hplain),
      foldlM_tagStep_attributes hattributes]
  · rw [Utf8.encode_append]
    refine getLast?_ne_slash hattributes fun hlast => ?_
    have hslash := plainByte_iff.1 (hplain slash (List.mem_of_getLast? hlast))
    exact hslash.2.2 (by decide)

/-- A slash behind a tag changes neither its first byte nor its quotes. -/
theorem bytes_of_emptyTag {node : Node} {tag : List Char} (h : WritesTag node tag) :
    (∃ first, (Utf8.encode tag ++ [slash]).head? = some first ∧ plainByte first = true) ∧
      (Utf8.encode tag ++ [slash]).foldlM tagStep none = some none := by
  obtain ⟨⟨first, hfirst, hplain⟩, hfold, -⟩ := bytes_of_writesTag h
  refine ⟨⟨first, by simp [hfirst], hplain⟩, ?_⟩
  rw [foldlM_append_eq hfold]
  rfl

/-- An end tag has no quotes. -/
theorem foldlM_tagStep_endTag {name : List Char} (h : IsName name) :
    (slash :: Utf8.encode name).foldlM tagStep none = some none := by
  have hslash : tagStep none slash = some none := by decide
  rw [foldlM_cons_eq hslash]
  exact foldlM_tagStep_plain (plain_of_isName h)

/-! ## Pieces of markup -/

/-- What starts like no other markup and closes all its quotes is a tag. -/
theorem read_tag {bytes rest : Bytes} {first : UInt8} (hfirst : bytes.head? = some first)
    (hbang : first ≠ bang) (hquestion : first ≠ question)
    (h : bytes.foldlM tagStep none = some none) :
    Markup.read (bytes ++ closeAngle :: rest) = .ok (.ofTag bytes, rest) := by
  have hcut : cut tagStep none (bytes ++ closeAngle :: rest) = some (bytes, rest) :=
    cut_of_foldlM h rfl
  cases bytes with
  | nil => cases hfirst
  | cons byte bytes =>
      obtain rfl := Option.some.inj hfirst
      rw [List.cons_append] at hcut ⊢
      simp only [Markup.read, if_neg hbang, if_neg hquestion, delimit, hcut, if_true]
      rfl

theorem ne_of_plainByte {byte : UInt8} (h : plainByte byte = true) :
    byte ≠ slash ∧ byte ≠ bang ∧ byte ≠ question := by
  have hsigns := (plainByte_iff.1 h).2.2
  simp only [List.mem_cons, List.not_mem_nil, or_false, not_or] at hsigns
  exact ⟨hsigns.2.2.1, hsigns.2.2.2.1, hsigns.2.2.2.2.1⟩

/-- A start tag is read as one. -/
theorem read_startTag {node : Node} {tag : List Char} (h : WritesTag node tag) (rest : Bytes) :
    Markup.read (Utf8.encode tag ++ closeAngle :: rest) =
      .ok (.startTag (Utf8.encode tag), rest) := by
  obtain ⟨⟨first, hfirst, hplain⟩, hfold, hlast⟩ := bytes_of_writesTag h
  obtain ⟨hslash, hbang, hquestion⟩ := ne_of_plainByte hplain
  have hhead : (Utf8.encode tag).head? ≠ some slash := by simp [hfirst, hslash]
  rw [read_tag hfirst hbang hquestion hfold, Markup.ofTag, if_neg hhead, if_neg hlast]

/-- The tag of an element without children is read as one. -/
theorem read_emptyTag {node : Node} {tag : List Char} (h : WritesTag node tag) (rest : Bytes) :
    Markup.read (Utf8.encode tag ++ [slash] ++ closeAngle :: rest) =
      .ok (.emptyTag (Utf8.encode tag), rest) := by
  obtain ⟨⟨first, hfirst, hplain⟩, hfold⟩ := bytes_of_emptyTag h
  obtain ⟨hslash, hbang, hquestion⟩ := ne_of_plainByte hplain
  have hhead : (Utf8.encode tag ++ [slash]).head? ≠ some slash := by simp [hfirst, hslash]
  rw [read_tag hfirst hbang hquestion hfold, Markup.ofTag, if_neg hhead,
    if_pos List.getLast?_concat, List.dropLast_concat]

/-- No space is cut off from a name in an end tag. -/
theorem endTagName_of_isName {name : List Char} (h : IsName name) :
    endTagName (Utf8.encode name) = Utf8.encode name := by
  obtain ⟨first, rest, hencode, hfirst, -⟩ := encode_isName h
  have hspace := (plainByte_iff.1 hfirst).1
  have hall : (Utf8.encode name).all isSpace = false := by simp [hencode, hspace]
  have hreverse : (Utf8.encode name).reverse.dropWhile isSpace = (Utf8.encode name).reverse := by
    cases hcons : (Utf8.encode name).reverse with
    | nil => rfl
    | cons last others =>
        have hlast : last ∈ Utf8.encode name := by
          rw [← List.mem_reverse, hcons]
          exact List.mem_cons_self
        have hspace' := (plainByte_iff.1 (plain_of_isName h last hlast)).1
        rw [List.dropWhile_cons_of_neg (by simp [hspace'])]
  rw [endTagName, hall, if_neg Bool.false_ne_true, hreverse, List.reverse_reverse]

/-- An end tag is read as one. -/
theorem read_endTag {name : List Char} (h : IsName name) (rest : Bytes) :
    Markup.read (slash :: Utf8.encode name ++ closeAngle :: rest) =
      .ok (.endTag (Utf8.encode name), rest) := by
  rw [read_tag rfl (by decide) (by decide) (foldlM_tagStep_endTag h), Markup.ofTag,
    if_pos List.head?_cons, List.tail_cons, endTagName_of_isName h]

/-! ## Comments -/

/-- Bytes that are neither angles nor hyphens leave no hyphen last. -/
theorem foldlM_commentStep_other {count hyphens : Nat} {bytes : Bytes} (hne : bytes ≠ [])
    (h : ∀ byte ∈ bytes, byte ≠ closeAngle ∧ byte ≠ hyphen) :
    bytes.foldlM commentStep (count, hyphens) = some (count + bytes.length, 0) := by
  induction bytes generalizing count hyphens with
  | nil => exact absurd rfl hne
  | cons byte bytes ih =>
      obtain ⟨hclose, hhyphen⟩ := h byte List.mem_cons_self
      have hstep : commentStep (count, hyphens) byte = some (count + 1, 0) := by
        simp [commentStep, hclose, hhyphen]
      rw [foldlM_cons_eq hstep, List.length_cons]
      cases bytes with
      | nil => rfl
      | cons next bytes =>
          rw [ih (List.cons_ne_nil next bytes) fun other hother =>
            h other (List.mem_cons_of_mem byte hother)]
          congr 2
          omega

/-- A character is passed over unless it ends the comment. -/
theorem foldlM_commentStep_char {count hyphens : Nat} {c : Char}
    (h : c = '>' → hyphens < 2) :
    ∃ count', count ≤ count' ∧ (Utf8.encodeChar c).foldlM commentStep (count, hyphens) =
      some (count', if c = '-' then hyphens + 1 else 0) := by
  by_cases hangle : c = '>'
  · subst hangle
    have hfew : ¬2 ≤ hyphens := Nat.not_le.2 (h rfl)
    have hencode : Utf8.encodeChar '>' = [closeAngle] := rfl
    have hhyphen : ¬closeAngle = hyphen := by decide
    refine ⟨count + 1, Nat.le_succ count, ?_⟩
    simp [hencode, commentStep, hfew, hhyphen]
  · by_cases hdash : c = '-'
    · subst hdash
      have hencode : Utf8.encodeChar '-' = [hyphen] := rfl
      have hclose : ¬hyphen = closeAngle := by decide
      refine ⟨count + 1, Nat.le_succ count, ?_⟩
      simp [hencode, commentStep, hclose]
    · obtain ⟨first, rest, hencode, -⟩ := Utf8.readFront_encodeChar c
      have hne : Utf8.encodeChar c ≠ [] := by simp [hencode]
      have hother : ∀ byte ∈ Utf8.encodeChar c, byte ≠ closeAngle ∧ byte ≠ hyphen :=
        fun byte hbyte => ⟨Utf8.ne_of_mem_encodeChar (by decide) hangle hbyte,
          Utf8.ne_of_mem_encodeChar (by decide) hdash hbyte⟩
      refine ⟨count + (Utf8.encodeChar c).length, Nat.le_add_right _ _, ?_⟩
      rw [foldlM_commentStep_other hne hother, if_neg hdash]

/-- With so many hyphens before it, the text starts with no hyphens that end a comment: an angle
follows on at most one. -/
def StartsNoEnd (hyphens : Nat) (text : List Char) : Prop :=
  ∀ count, List.replicate count '-' ++ ['>'] <+: text → hyphens + count < 2

theorem startsNoEnd_zero {text : List Char} (h : ¬['-', '-'] <:+: text) :
    StartsNoEnd 0 text := by
  intro count hprefix
  apply Nat.lt_of_not_le
  intro hmany
  obtain ⟨more, rfl⟩ : ∃ more, count = more + 2 := ⟨count - 2, by omega⟩
  have hdouble : ['-', '-'] <+: List.replicate (more + 2) '-' ++ ['>'] :=
    ⟨List.replicate more '-' ++ ['>'], rfl⟩
  exact h (hdouble.trans hprefix).isInfix

/-- The condition passes from a text to what follows its first character. -/
theorem startsNoEnd_tail {hyphens : Nat} {c : Char} {text : List Char}
    (hdouble : ¬['-', '-'] <:+: text) (h : StartsNoEnd hyphens (c :: text)) :
    StartsNoEnd (if c = '-' then hyphens + 1 else 0) text := by
  split
  · next hdash =>
      intro count hprefix
      have hlonger : List.replicate (count + 1) '-' ++ ['>'] <+: c :: text := by
        rw [hdash, List.replicate_succ, List.cons_append]
        exact (List.prefix_cons_inj '-').2 hprefix
      have hfew := h (count + 1) hlonger
      omega
  · exact startsNoEnd_zero hdouble

/-- A text in which nothing ends a comment is passed over. -/
theorem foldlM_commentStep_text {count hyphens : Nat} {text : List Char}
    (hdouble : ¬['-', '-'] <:+: text) (hstart : StartsNoEnd hyphens text) :
    ∃ count' hyphens', count ≤ count' ∧
      (Utf8.encode text).foldlM commentStep (count, hyphens) = some (count', hyphens') := by
  induction text generalizing count hyphens with
  | nil => exact ⟨count, hyphens, Nat.le_refl _, rfl⟩
  | cons c text ih =>
      have htext : ¬['-', '-'] <:+: text := fun hinfix => hdouble (List.infix_cons hinfix)
      have hangle : c = '>' → hyphens < 2 := by
        rintro rfl
        exact hstart 0 ⟨text, rfl⟩
      obtain ⟨count', hle, hchar⟩ : ∃ count', count ≤ count' ∧
          (Utf8.encodeChar c).foldlM commentStep (count, hyphens) =
            some (count', if c = '-' then hyphens + 1 else 0) :=
        foldlM_commentStep_char hangle
      obtain ⟨count'', hyphens', hle', hfold⟩ :=
        @ih count' _ htext (startsNoEnd_tail htext hstart)
      refine ⟨count'', hyphens', Nat.le_trans hle hle', ?_⟩
      rw [Utf8.encode_cons, foldlM_append_eq hchar, hfold]

/-- The text of a comment does not end it, though two hyphens stand before it. -/
theorem startsNoEnd_of_isCommentText {text : List Char} (h : IsCommentText text) :
    StartsNoEnd 2 text := by
  obtain ⟨hdouble, hangle, harrow⟩ := h
  intro count hprefix
  have hfew := startsNoEnd_zero hdouble count hprefix
  cases count with
  | zero => exact absurd hprefix hangle
  | succ count =>
      obtain rfl : count = 0 := by omega
      exact absurd hprefix harrow

/-- A comment is passed over up to the angle that ends it. -/
theorem foldlM_commentStep_comment {text : List Char} (h : IsCommentText text) :
    ∃ count hyphens, 4 ≤ count ∧ 2 ≤ hyphens ∧
      (hyphen :: hyphen :: (Utf8.encode text ++ [hyphen, hyphen])).foldlM commentStep (0, 0) =
        some (count, hyphens) := by
  obtain ⟨count, hyphens, hle, hfold⟩ : ∃ count hyphens, 2 ≤ count ∧
      (Utf8.encode text).foldlM commentStep (2, 2) = some (count, hyphens) :=
    foldlM_commentStep_text h.1 (startsNoEnd_of_isCommentText h)
  have hlast : [hyphen, hyphen].foldlM commentStep (count, hyphens) =
      some (count + 2, hyphens + 2) := by
    have hclose : ¬hyphen = closeAngle := by decide
    simp [commentStep, hclose]
  refine ⟨count + 2, hyphens + 2, by omega, by omega, ?_⟩
  show (Utf8.encode text ++ [hyphen, hyphen]).foldlM commentStep (2, 2) = _
  rw [foldlM_append_eq hfold, hlast]

/-- A comment is read as a remark. -/
theorem read_comment {text : List Char} (h : IsCommentText text) (rest : Bytes) :
    Markup.read (bang :: hyphen :: hyphen :: (Utf8.encode text ++
      hyphen :: hyphen :: closeAngle :: rest)) = .ok (.remark, rest) := by
  obtain ⟨count, hyphens, hcount, hhyphens, hcontent⟩ := foldlM_commentStep_comment h
  have hend : commentStep (count, hyphens) closeAngle = none := if_pos ⟨rfl, hcount, hhyphens⟩
  have hcut : cut commentStep (0, 0) (hyphen :: hyphen :: (Utf8.encode text ++ [hyphen, hyphen])
      ++ closeAngle :: rest) =
        some (hyphen :: hyphen :: (Utf8.encode text ++ [hyphen, hyphen]), rest) :=
    cut_of_foldlM hcontent hend
  have hbytes : hyphen :: hyphen :: (Utf8.encode text ++ hyphen :: hyphen :: closeAngle :: rest) =
      hyphen :: hyphen :: (Utf8.encode text ++ [hyphen, hyphen]) ++ closeAngle :: rest := by
    simp
  have hvalid : (keyword "--").isPrefixOf
      (hyphen :: hyphen :: (Utf8.encode text ++ [hyphen, hyphen])) = true := by
    have hkeyword : keyword "--" = [hyphen, hyphen] := by decide
    simp [hkeyword, List.isPrefixOf]
  have hbracket : ¬some hyphen = some openBracket := by decide
  rw [Markup.read, if_pos rfl, hbytes]
  simp only [Markup.readDeclaration, List.cons_append, List.head?_cons, if_neg hbracket, if_true,
    delimit]
  rw [← List.cons_append, ← List.cons_append, hcut]
  simp only [hvalid, if_true]
  rfl

end ClassDiagram.Xml
