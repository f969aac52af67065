import ClassDiagram.Xml.Attribute
import ClassDiagram.Xml.Markup

/-!
# Reading a document tag by tag

A `Reader` stands somewhere in a document and knows the names of the elements
that are open there, innermost first.  `Reader.next` reads up to the end of the
next piece of markup: character data is passed over, start tags open an element,
and an end tag has to close the innermost one under the same name.
-/

namespace ClassDiagram.Xml

/-- What one piece of markup means for the tree of elements. -/
inductive Event where
  /-- An element opens; `content` is its start tag. -/
  | opened (content : Bytes)
  /-- An element without children; `content` is its tag. -/
  | childless (content : Bytes)
  /-- The innermost open element closes. -/
  | closed
  /-- Nothing. -/
  | skipped

/-- A place in a document. -/
structure Reader where
  /-- The number of bytes in the document. -/
  size : Nat
  /-- The bytes still to read. -/
  rest : Bytes
  /-- The names of the open elements, innermost first. -/
  openNames : List Bytes

namespace Reader

/-- The mark that may stand before a document in UTF-8. -/
def byteOrderMark : Bytes := [0xEF, 0xBB, 0xBF]

/-- The bytes of a document without a byte order mark. -/
def withoutMark (bytes : Bytes) : Bytes :=
  if byteOrderMark.isPrefixOf bytes then bytes.drop byteOrderMark.length else bytes

/-- The reader at the start of a document. -/
def ofBytes (bytes : Bytes) : Reader :=
  let document := withoutMark bytes
  ⟨document.length, document, []⟩

/-- A name as messages show it: empty if it is not UTF-8. -/
def shownName (name : Bytes) : String :=
  match Utf8.decodeText name with
  | .ok text => text
  | .error _ => ""

/-- The reader further on, with other elements open. -/
def moveTo (reader : Reader) (rest : Bytes) (openNames : List Bytes) : Reader :=
  { reader with rest, openNames }

/-- What a piece of markup that starts at `position` and is followed by `after` means. -/
def interpret (reader : Reader) (position : Nat) (markup : Markup) (after : Bytes) :
    Except Error (Event × Reader) :=
  match markup with
  | .remark | .doctype true => .ok (.skipped, reader.moveTo after reader.openNames)
  | .doctype false => .error (.formAt (reader.size - (after.length + 1)) .namelessDoctype)
  | .startTag content =>
      .ok (.opened content, reader.moveTo after (tagName content :: reader.openNames))
  | .emptyTag content => .ok (.childless content, reader.moveTo after reader.openNames)
  | .endTag name =>
      match reader.openNames with
      | [] => .error (.formAt position (.strayEndTag (shownName name)))
      | innermost :: outer =>
          if name = innermost then .ok (.closed, reader.moveTo after outer)
          else .error
            (.formAt position (.mismatchedEndTag (shownName innermost) (shownName name)))

/-- Reads to the end of the next piece of markup; none if there is no more. -/
def next (reader : Reader) : Except Error (Option (Event × Reader)) :=
  match reader.rest.dropWhile (· != openAngle) with
  | [] => .ok none
  | _ :: rest =>
      let position := reader.size - (rest.length + 1)
      match Markup.read rest with
      | .error fault => .error (.syntaxAt position fault)
      | .ok (markup, after) => (reader.interpret position markup after).map some

theorem rest_of_interpret {reader reader' : Reader} {position : Nat} {markup : Markup}
    {after : Bytes} {event : Event}
    (h : reader.interpret position markup after = .ok (event, reader')) :
    reader'.rest = after := by
  unfold interpret at h
  split at h
  · simp only [Except.ok.injEq, Prod.mk.injEq] at h; simp [← h.2, moveTo]
  · simp only [Except.ok.injEq, Prod.mk.injEq] at h; simp [← h.2, moveTo]
  · simp at h
  · simp only [Except.ok.injEq, Prod.mk.injEq] at h; simp [← h.2, moveTo]
  · simp only [Except.ok.injEq, Prod.mk.injEq] at h; simp [← h.2, moveTo]
  · split at h
    · simp at h
    · split at h
      · simp only [Except.ok.injEq, Prod.mk.injEq] at h; simp [← h.2, moveTo]
      · simp at h

/-- Each event takes at least one byte. -/
theorem length_lt_of_next {reader reader' : Reader} {event : Event}
    (h : reader.next = .ok (some (event, reader'))) :
    reader'.rest.length < reader.rest.length := by
  unfold next at h
  split at h
  · simp at h
  · next angle rest hrest =>
      have htext := (List.dropWhile_suffix (· != openAngle) (l := reader.rest)).length_le
      rw [hrest, List.length_cons] at htext
      simp only at h
      split at h
      · simp at h
      · next markup after hread =>
          have hlt := Markup.length_lt_of_read hread
          cases hint : reader.interpret (reader.size - (rest.length + 1)) markup after with
          | error error => simp [hint, Except.map] at h
          | ok pair =>
              obtain ⟨event', moved⟩ := pair
              simp only [hint, Except.map, Except.ok.injEq, Option.some.injEq,
                Prod.mk.injEq] at h
              rw [← h.2, rest_of_interpret hint]
              omega

end Reader

end ClassDiagram.Xml
