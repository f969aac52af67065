import ClassDiagram.Proofs.Insertion
import ClassDiagram.Proofs.Utf8
import ClassDiagram.Proofs.Xml.Values
import ClassDiagram.Xml.Attribute

/-!
# Written attributes are read back

The content of a tag that was written is read as the name and the attributes of
the element (`ofTagContent_of_writesTag`).

Names are ASCII and hold no byte that structures a tag (`plainByte`), while a
value may hold any byte but the quote around it.
-/

namespace ClassDiagram.Xml

/-! ## Bytes of names -/

/-- A byte without a meaning of its own in markup. -/
def plainByte (byte : UInt8) : Bool :=
  !isSpace byte && !isQuote byte &&
    byte ∉ [openAngle, closeAngle, slash, bang, question, equals]

theorem ascii_of_isAlphanum {c : Char} (h : c.isAlphanum = true) : c.toNat < 0x80 := by
  have hupper : 'Z'.val.toNat = 0x5A := rfl
  have hlower : 'z'.val.toNat = 0x7A := rfl
  have hdigit : '9'.val.toNat = 0x39 := rfl
  have hc : c.toNat = c.val.toNat := rfl
  rcases Bool.or_eq_true_iff.1 h with h | h
  · rcases Bool.or_eq_true_iff.1 h with h | h
    · have hle := UInt32.le_iff_toNat_le.1 (of_decide_eq_true h).2
      omega
    · have hle := UInt32.le_iff_toNat_le.1 (of_decide_eq_true (Bool.and_eq_true_iff.1 h).2)
      omega
  · have hle := UInt32.le_iff_toNat_le.1 (of_decide_eq_true (Bool.and_eq_true_iff.1 h).2)
    omega

theorem ascii_of_inName {c : Char} (h : inName c = true) : c.toNat < 0x80 := by
  simp only [inName, Bool.or_eq_true, decide_eq_true_eq, List.mem_cons, List.not_mem_nil,
    or_false] at h
  rcases h with h | rfl | rfl | rfl | rfl
  · exact ascii_of_isAlphanum h
  all_goals decide

/-- The characters of a name are ASCII, and plain. -/
theorem plain_of_inName {c : Char} (h : inName c = true) :
    c.toNat < 0x80 ∧ plainByte (UInt8.ofNat c.toNat) = true := by
  have hascii := ascii_of_inName h
  have hall : ∀ code < 0x80, inName (Char.ofNat code) = true →
      plainByte (UInt8.ofNat code) = true := by decide
  exact ⟨hascii, hall c.toNat hascii (by rwa [Char.ofNat_toNat])⟩

theorem inName_of_isName {cs : List Char} (h : IsName cs) : ∀ c ∈ cs, inName c = true := by
  obtain ⟨first, rest, rfl, hfirst, hrest⟩ := h
  intro c hc
  rcases List.mem_cons.1 hc with rfl | hc
  · simp only [startsName, Bool.or_eq_true, beq_iff_eq] at hfirst
    rcases hfirst with hfirst | rfl
    · have halphanum : c.isAlphanum = true := Bool.or_eq_true_iff.2 (.inl hfirst)
      simp [inName, halphanum]
    · decide
  · exact hrest c hc

/-- The bytes of a name are plain. -/
theorem plain_of_isName {cs : List Char} (h : IsName cs) :
    ∀ byte ∈ Utf8.encode cs, plainByte byte = true := by
  intro byte hbyte
  obtain ⟨c, hc, hbyte⟩ := List.mem_flatMap.1 hbyte
  obtain ⟨hascii, hplain⟩ := plain_of_inName (inName_of_isName h c hc)
  rw [Utf8.encodeChar_of_ascii hascii, List.mem_singleton] at hbyte
  rw [hbyte]
  exact hplain

/-- A name has a first byte. -/
theorem encode_isName {cs : List Char} (h : IsName cs) :
    ∃ first rest, Utf8.encode cs = first :: rest ∧ plainByte first = true ∧
      ∀ byte ∈ rest, plainByte byte = true := by
  have hplain := plain_of_isName h
  obtain ⟨c, cs, rfl, -, -⟩ := id h
  obtain ⟨byte, tail, hc, -⟩ := Utf8.readFront_encodeChar c
  rw [Utf8.encode_cons, hc, List.cons_append] at hplain ⊢
  exact ⟨byte, tail ++ Utf8.encode cs, rfl, hplain byte List.mem_cons_self,
    fun other hother => hplain other (List.mem_cons_of_mem byte hother)⟩

theorem plainByte_iff {byte : UInt8} : plainByte byte = true ↔
    isSpace byte = false ∧ isQuote byte = false ∧
      byte ∉ [openAngle, closeAngle, slash, bang, question, equals] := by
  simp [plainByte, and_assoc]

/-- A quote is a byte that is not written in values. -/
theorem encode_quote {quote : Char} (h : quote = doubleQuote ∨ quote = singleQuote) :
    ∃ mark, Utf8.encodeChar quote = [mark] ∧ isQuote mark = true ∧
      ∀ {cs : List Char}, (∀ c ∈ cs, NoQuote c) → ∀ byte ∈ Utf8.encode cs, byte ≠ mark := by
  have hascii : quote.toNat < 0x80 := by rcases h with rfl | rfl <;> decide
  refine ⟨UInt8.ofNat quote.toNat, Utf8.encodeChar_of_ascii hascii, ?_, ?_⟩
  · rcases h with rfl | rfl <;> decide
  · intro cs hcs byte hbyte
    refine Utf8.ne_of_mem_encode hascii (fun c hc => ?_) hbyte
    rcases h with rfl | rfl
    · exact (hcs c hc).1
    · exact (hcs c hc).2

/-! ## Attributes -/

@[simp]
theorem mapError_ok {ε ε' α : Type} {fault : ε → ε'} (a : α) :
    (Except.ok a).mapError fault = .ok a := rfl

theorem encode_attribute {key written rest : List Char} {quote : Char} {mark : UInt8}
    (hmark : Utf8.encodeChar quote = [mark]) :
    Utf8.encode (' ' :: key ++ '=' :: quote :: written ++ quote :: rest) =
      0x20 :: (Utf8.encode key ++ equals :: mark :: (Utf8.encode written ++
        mark :: Utf8.encode rest)) := by
  have hspace : Utf8.encodeChar ' ' = [0x20] := rfl
  have hequals : Utf8.encodeChar '=' = [equals] := rfl
  simp [hspace, hequals, hmark]

/-- A value between quotes ends at the second of them. -/
theorem quotedValue_of_written {size : Nat} {value rest : Bytes} {mark : UInt8}
    (hmark : isQuote mark = true) (hvalue : ∀ byte ∈ value, byte ≠ mark) :
    quotedValue size (mark :: (value ++ mark :: rest)) = .ok (value, rest) := by
  have hspace : isSpace mark = false := by
    simp only [isQuote, Bool.or_eq_true, beq_iff_eq] at hmark
    rcases hmark with rfl | rfl <;> decide
  have hbefore : ∀ byte ∈ value, (byte != mark) = true := fun byte hbyte =>
    bne_iff_ne.2 (hvalue byte hbyte)
  have htake : (value ++ mark :: rest).takeWhile (· != mark) = value := by
    rw [List.takeWhile_append_of_pos hbefore]
    simp
  have hdrop : (value ++ mark :: rest).dropWhile (· != mark) = mark :: rest := by
    rw [List.dropWhile_append_of_pos hbefore]
    simp
  simp [quotedValue, hspace, hmark, htake, hdrop]

/-- An attribute under a new name is delimited as it was written. -/
theorem ofFirst_of_written {seen : List RawAttribute} {first mark : UInt8} {name value : Bytes}
    (hname : ∀ byte ∈ name, plainByte byte = true) (hmark : isQuote mark = true)
    (hvalue : ∀ byte ∈ value, byte ≠ mark) (hseen : ∀ raw ∈ seen, raw.name ≠ first :: name)
    (size : Nat) (rest : Bytes) :
    ∃ start, RawAttribute.ofFirst size seen first
      (name ++ equals :: mark :: (value ++ mark :: rest)) =
        .ok (⟨start, first :: name, value⟩, rest) := by
  have hends : ∀ byte ∈ name, (!endsName byte) = true := by
    intro byte hbyte
    obtain ⟨hspace, -, hsigns⟩ := plainByte_iff.1 (hname byte hbyte)
    have hequals : byte ≠ equals := by
      rintro rfl
      exact hsigns (by decide)
    simp [endsName, hspace, hequals]
  have hequals : endsName equals = true := by decide
  have hspace : isSpace equals = false := by decide
  have htake : (name ++ equals :: mark :: (value ++ mark :: rest)).takeWhile (!endsName ·) =
      name := by
    rw [List.takeWhile_append_of_pos hends]
    simp [hequals]
  have hdrop : ((name ++ equals :: mark :: (value ++ mark :: rest)).dropWhile
      (!endsName ·)).dropWhile isSpace = equals :: mark :: (value ++ mark :: rest) := by
    rw [List.dropWhile_append_of_pos hends]
    simp [hequals, hspace]
  have hnew : seen.find? (·.name = first :: name) = none := by
    rw [List.find?_eq_none]
    intro raw hraw
    simpa using hseen raw hraw
  refine ⟨size - ((name ++ equals :: mark :: (value ++ mark :: rest)).length + 1), ?_⟩
  simp only [RawAttribute.ofFirst, htake, hdrop, if_true, hnew,
    quotedValue_of_written hmark hvalue]
  rfl

/-- The space before an attribute is passed over. -/
theorem next_of_written {size : Nat} {seen : List RawAttribute} {key : List Char}
    {value rest : Bytes} {mark : UInt8} (hkey : IsName key) (hmark : isQuote mark = true)
    (hvalue : ∀ byte ∈ value, byte ≠ mark) (hseen : ∀ raw ∈ seen, raw.name ≠ Utf8.encode key) :
    ∃ start, RawAttribute.next size seen
      (0x20 :: (Utf8.encode key ++ equals :: mark :: (value ++ mark :: rest))) =
        .ok (some (⟨start, Utf8.encode key, value⟩, rest)) := by
  obtain ⟨first, name, hname, hfirst, hplain⟩ := encode_isName hkey
  rw [hname] at hseen ⊢
  obtain ⟨start, hattribute⟩ := ofFirst_of_written hplain hmark hvalue hseen size rest
  have hskip : (0x20 :: (first :: name ++ equals :: mark :: (value ++ mark :: rest))).dropWhile
      isSpace = first :: (name ++ equals :: mark :: (value ++ mark :: rest)) := by
    have hspace := (plainByte_iff.1 hfirst).1
    have hblank : isSpace 0x20 = true := by decide
    simp [hspace, hblank]
  refine ⟨start, ?_⟩
  simp only [RawAttribute.next, hskip, hattribute]
  rfl

/-- The text of an attribute is decoded to its name and its value. -/
theorem decode_of_written {start : Nat} {key value : String} {written : List Char}
    (hvalue : WritesValue value.toList written) :
    RawAttribute.decode ⟨start, Utf8.encode key.toList, Utf8.encode written⟩ =
      .ok (key, value) := by
  simp only [RawAttribute.decode, Utf8.decodeText_encode, Utf8.decode_encode, mapError_ok]
  show ((expandReferences written).mapError Error.malformedReference >>= fun expanded =>
    pure (key, String.ofList expanded)) = _
  rw [expandReferences_of_writesValue hvalue]
  exact congrArg (fun text => Except.ok (key, text)) String.ofList_toList

/-- Attributes under new and distinct names are read in order. -/
theorem readAttributes_of_written {attributes : List (String × String)} {written : List Char}
    (h : WritesAttributes attributes written) {size : Nat} {seen : List RawAttribute}
    {map : OrderedMap String String} (hkeys : (attributes.map Prod.fst).Nodup)
    (hseen : ∀ raw ∈ seen, ∀ entry ∈ attributes, raw.name ≠ Utf8.encode entry.1.toList) :
    readAttributes size seen map (Utf8.encode written) = .ok (map.insertAll attributes) := by
  induction h generalizing seen map with
  | nil =>
      rw [readAttributes]
      split
      · next hnext => cases hnext
      · rfl
      · next hnext => cases hnext
  | @cons key value attributes quote written rest hkey hquote hvalue _ ih =>
      obtain ⟨mark, hmark, hisQuote, hnot⟩ := encode_quote hquote
      have hnew : ∀ raw ∈ seen, raw.name ≠ Utf8.encode key.toList := fun raw hraw =>
        hseen raw hraw (key, value) List.mem_cons_self
      obtain ⟨start, hnext⟩ := next_of_written hkey hisQuote
        (hnot (noQuote_writesValue hvalue)) hnew
      rw [encode_attribute hmark, readAttributes]
      split
      · next h => cases hnext.symm.trans h
      · next h => cases hnext.symm.trans h
      · next raw after h =>
          obtain ⟨rfl, rfl⟩ := Prod.mk.inj (Option.some.inj (Except.ok.inj (hnext.symm.trans h)))
          rw [decode_of_written hvalue]
          rw [List.map_cons, List.nodup_cons] at hkeys
          refine ih hkeys.2 fun raw hraw entry hentry => ?_
          rcases List.mem_append.1 hraw with hraw | hraw
          · exact hseen raw hraw entry (List.mem_cons_of_mem _ hentry)
          · rw [List.mem_singleton.1 hraw]
            intro hsame
            have hkey := String.toList_injective (Utf8.encode_injective hsame)
            have hmem : entry.1 ∈ attributes.map Prod.fst := List.mem_map_of_mem hentry
            exact hkeys.1 (hkey ▸ hmem)

/-! ## Tags -/

/-- The name in a tag ends before the first attribute. -/
theorem tagName_of_written {name : List Char} {attributes : List (String × String)}
    {written : List Char} (hname : IsName name) (h : WritesAttributes attributes written) :
    tagName (Utf8.encode (name ++ written)) = Utf8.encode name ∧
      (Utf8.encode (name ++ written)).dropWhile (!isSpace ·) = Utf8.encode written := by
  have hplain : ∀ byte ∈ Utf8.encode name, (!isSpace byte) = true := by
    intro byte hbyte
    simp [(plainByte_iff.1 (plain_of_isName hname byte hbyte)).1]
  have hrest : (Utf8.encode written).takeWhile (!isSpace ·) = [] ∧
      (Utf8.encode written).dropWhile (!isSpace ·) = Utf8.encode written := by
    have hspace : isSpace 0x20 = true := by decide
    cases h with
    | nil => exact ⟨rfl, rfl⟩
    | cons _ hquote _ _ =>
        obtain ⟨mark, hmark, -, -⟩ := encode_quote hquote
        rw [encode_attribute hmark]
        simp [hspace]
  constructor
  · rw [tagName, Utf8.encode_append, List.takeWhile_append_of_pos hplain, hrest.1,
      List.append_nil]
  · rw [Utf8.encode_append, List.dropWhile_append_of_pos hplain, hrest.2]

/-- The tag of an element is read as the element without its children. -/
theorem ofTagContent_of_writesTag {node : Node} {tag : List Char} (h : WritesTag node tag) :
    Node.ofTagContent (Utf8.encode tag) = .ok { node with children := [] } := by
  obtain @⟨attributes, hname, hattributes⟩ := h
  obtain ⟨htag, hrest⟩ := tagName_of_written hname hattributes
  have hmap : (∅ : OrderedMap String String).insertAll node.attributes.entries =
      node.attributes :=
    OrderedMap.ext (OrderedMap.entries_insertAll_empty node.attributes.nodup_keys)
  have hread : ∀ size, readAttributes size [] ∅ (Utf8.encode attributes) =
      .ok node.attributes := by
    intro size
    rw [readAttributes_of_written hattributes node.attributes.nodup_keys (by simp), hmap]
  simp only [Node.ofTagContent, htag, hrest, Utf8.decodeText_encode, mapError_ok, hread]
  rfl

theorem tagName_of_writesTag {node : Node} {tag : List Char} (h : WritesTag node tag) :
    tagName (Utf8.encode tag) = Utf8.encode node.tag.toList := by
  obtain ⟨hname, hattributes⟩ := h
  exact (tagName_of_written hname hattributes).1

end ClassDiagram.Xml
