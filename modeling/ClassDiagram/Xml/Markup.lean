import ClassDiagram.Xml.Byte
import ClassDiagram.Xml.Error

/-!
# Delimiting markup

`Markup.read` takes the bytes after a `<` and splits off the piece of markup
that they start with.  The byte after `<` tells the kind, and each kind ends at
a `>` under a condition of its own: outside quotes in a tag, after `--` in a
comment, after `]]` in a character data section, after `?` in a processing
instruction, at balanced angles in a document type.  The condition is a state
carried over the bytes, and `cut` is the scan that all kinds share.
-/

namespace ClassDiagram.Xml

/-! ## Scanning for the end -/

/-- Splits at the first byte for which `step` gives no next state; that byte is dropped. -/
def cut {σ : Type} (step : σ → UInt8 → Option σ) : σ → Bytes → Option (Bytes × Bytes)
  | _, [] => none
  | state, byte :: rest =>
      match step state byte with
      | none => some ([], rest)
      | some next => (cut step next rest).map fun (content, after) => (byte :: content, after)

/-- The bytes of the input are those before the end, the end itself and those after it. -/
theorem length_of_cut {σ : Type} {step : σ → UInt8 → Option σ} {state : σ}
    {bytes content after : Bytes} (h : cut step state bytes = some (content, after)) :
    bytes.length = content.length + 1 + after.length := by
  induction bytes generalizing state content with
  | nil => simp [cut] at h
  | cons byte rest ih =>
      unfold cut at h
      split at h
      · simp only [Option.some.injEq, Prod.mk.injEq] at h
        simp [← h.1, ← h.2, Nat.add_comm]
      · next next _ =>
          obtain ⟨⟨content', after'⟩, hcut, heq⟩ := Option.map_eq_some_iff.1 h
          simp only [Prod.mk.injEq] at heq
          have := ih (heq.2 ▸ hcut)
          simp only [List.length_cons, ← heq.1, this]
          omega

/-- In a tag: the quote that is open.  A quote is closed by the same character. -/
def tagStep (quote : Option UInt8) (byte : UInt8) : Option (Option UInt8) :=
  match quote with
  | some mark => some (if byte = mark then none else some mark)
  | none =>
      if byte = closeAngle then none
      else some (if isQuote byte then some byte else none)

/-- In a comment: how many bytes have been read and how many hyphens stand last.  Four bytes are
the least that a comment holds besides its angles and its `!`. -/
def commentStep (state : Nat × Nat) (byte : UInt8) : Option (Nat × Nat) :=
  if byte = closeAngle ∧ 4 ≤ state.1 ∧ 2 ≤ state.2 then none
  else some (state.1 + 1, if byte = hyphen then state.2 + 1 else 0)

/-- In a character data section: how many brackets stand last. -/
def sectionStep (brackets : Nat) (byte : UInt8) : Option Nat :=
  if byte = closeAngle ∧ 2 ≤ brackets then none
  else some (if byte = closeBracket then brackets + 1 else 0)

/-- In a document type: how many angles are open. -/
def doctypeStep (depth : Nat) (byte : UInt8) : Option Nat :=
  if byte = openAngle then some (depth + 1)
  else if byte = closeAngle then if depth = 0 then none else some (depth - 1)
  else some depth

/-- In a processing instruction: whether a question mark stands last. -/
def instructionStep (marked : Bool) (byte : UInt8) : Option Bool :=
  if byte = closeAngle ∧ marked = true then none else some (byte == question)

/-! ## Kinds of markup -/

/-- A piece of markup, without what the reader of a document has no use for. -/
inductive Markup where
  /-- A comment, a character data section or a processing instruction. -/
  | remark
  /-- A document type declaration, with or without a name. -/
  | doctype (named : Bool)
  /-- An end tag with the bytes of its name. -/
  | endTag (name : Bytes)
  /-- A start tag with its content. -/
  | startTag (content : Bytes)
  /-- An empty-element tag with its content. -/
  | emptyTag (content : Bytes)

/-- The name in an end tag: spaces after it do not count, unless there is nothing else. -/
def endTagName (content : Bytes) : Bytes :=
  if content.all isSpace then content else (content.reverse.dropWhile isSpace).reverse

/-- The kind of a tag by its content. -/
def Markup.ofTag (content : Bytes) : Markup :=
  if content.head? = some slash then .endTag (endTagName content.tail)
  else if content.getLast? = some slash then .emptyTag content.dropLast
  else .startTag content

/-- Delimits a piece of markup from its first byte on; `fault` says that it has no end or does
not have the shape that `valid` asks for. -/
def delimit {σ : Type} (step : σ → UInt8 → Option σ) (start : σ) (fault : SyntaxFault)
    (valid : Bytes → Bool) (bytes : Bytes) : Except SyntaxFault (Bytes × Bytes) :=
  match cut step start bytes with
  | none => .error fault
  | some (content, after) => if valid content then .ok (content, after) else .error fault

/-- The keyword of a document type, after the `!`. -/
def doctypeKeyword : Bytes := keyword "doctype"

/-- Reads what follows `<!`. -/
def Markup.readDeclaration (bytes : Bytes) : Except SyntaxFault (Markup × Bytes) :=
  let first := bytes.head?
  if first = some openBracket then
    (delimit sectionStep 0 .unclosedSection ((keyword "[CDATA[").isPrefixOf ·) bytes).map
      fun (_, after) => (.remark, after)
  else if first = some hyphen then
    (delimit commentStep (0, 0) .unclosedComment ((keyword "--").isPrefixOf ·) bytes).map
      fun (_, after) => (.remark, after)
  else if first.map smallByte = some (asciiByte 'd') then
    (delimit doctypeStep 0 .unclosedDoctype
      (fun content => doctypeKeyword.isPrefixOf (content.map smallByte)) bytes).map
      fun (content, after) =>
        (.doctype !((content.drop doctypeKeyword.length).all isSpace), after)
  else .error .unknownMarkup

/-- Reads what follows `<`. -/
def Markup.read (bytes : Bytes) : Except SyntaxFault (Markup × Bytes) :=
  match bytes with
  | [] => .error .unclosedTag
  | first :: rest =>
      if first = bang then Markup.readDeclaration rest
      else if first = question then
        (delimit instructionStep false .unclosedInstruction (1 < ·.length) bytes).map
          fun (_, after) => (.remark, after)
      else
        (delimit tagStep none .unclosedTag (fun _ => true) bytes).map
          fun (content, after) => (.ofTag content, after)

/-! ## Reading goes forward -/

theorem length_lt_of_delimit {σ : Type} {step : σ → UInt8 → Option σ} {start : σ}
    {fault : SyntaxFault} {valid : Bytes → Bool} {bytes content after : Bytes}
    (h : delimit step start fault valid bytes = .ok (content, after)) :
    after.length < bytes.length := by
  unfold delimit at h
  split at h
  · simp at h
  · next hcut =>
      split at h
      · simp only [Except.ok.injEq, Prod.mk.injEq] at h
        have := length_of_cut hcut
        rw [← h.2]
        omega
      · simp at h

/-- What a delimited piece is turned into does not change what is left after it. -/
theorem length_lt_of_delimit_map {σ : Type} (kind : Bytes → Markup)
    {step : σ → UInt8 → Option σ} {start : σ} {fault : SyntaxFault} {valid : Bytes → Bool}
    {bytes after : Bytes} {markup : Markup}
    (h : (delimit step start fault valid bytes).map
      (fun (content, after) => (kind content, after)) = .ok (markup, after)) :
    after.length < bytes.length := by
  cases hcut : delimit step start fault valid bytes with
  | error fault => simp [hcut, Except.map] at h
  | ok pair =>
      obtain ⟨content, tail⟩ := pair
      have hlt := length_lt_of_delimit hcut
      simp only [hcut, Except.map, Except.ok.injEq, Prod.mk.injEq] at h
      exact h.2 ▸ hlt

theorem Markup.length_lt_of_readDeclaration {bytes after : Bytes} {markup : Markup}
    (h : Markup.readDeclaration bytes = .ok (markup, after)) : after.length < bytes.length := by
  unfold Markup.readDeclaration at h
  simp only at h
  split at h
  · exact length_lt_of_delimit_map (fun _ => .remark) h
  · split at h
    · exact length_lt_of_delimit_map (fun _ => .remark) h
    · split at h
      · exact length_lt_of_delimit_map
          (fun content =>
            .doctype !((content.drop doctypeKeyword.length).all isSpace)) h
      · simp at h

/-- Markup takes at least one byte. -/
theorem Markup.length_lt_of_read {bytes after : Bytes} {markup : Markup}
    (h : Markup.read bytes = .ok (markup, after)) : after.length < bytes.length := by
  unfold Markup.read at h
  split at h
  · simp at h
  · next first rest =>
      split at h
      · exact Nat.lt_succ_of_lt (Markup.length_lt_of_readDeclaration h)
      · split at h
        · exact length_lt_of_delimit_map (fun _ => .remark) h
        · exact length_lt_of_delimit_map .ofTag h

end ClassDiagram.Xml
