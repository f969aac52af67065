import ClassDiagram.Xml.Byte
import ClassDiagram.Xml.Node
import ClassDiagram.Xml.Reference

/-!
# Attributes of a start tag

The content of a start tag is its name, up to the first space, followed by
attributes.  `RawAttribute.next` delimits one attribute and leaves the bytes
after it; `readAttributes` goes on to the end of the tag and decodes each
attribute before it looks at the next one, so that the first fault in reading
order is the one reported.

Positions count from the first byte of the content.  A function that needs one
takes the size of the content and subtracts what is left to read.
-/

namespace ClassDiagram.Xml

/-- An attribute as it is written. -/
structure RawAttribute where
  /-- The position of its first byte. -/
  start : Nat
  /-- The bytes of its name. -/
  name : Bytes
  /-- The bytes between the quotes. -/
  value : Bytes

/-- Whether a byte ends an attribute name. -/
def endsName (byte : UInt8) : Bool := byte == equals || isSpace byte

/-- Delimits the value in what follows `=`. -/
def quotedValue (size : Nat) (bytes : Bytes) : Except AttributeFault (Bytes × Bytes) :=
  match bytes.dropWhile isSpace with
  | [] => .error (.missingValue size)
  | quote :: rest =>
      if isQuote quote then
        match rest.dropWhile (· != quote) with
        | [] => .error (.unclosedQuote size quote)
        | _ :: after => .ok (rest.takeWhile (· != quote), after)
      else .error (.unquotedValue (size - (rest.length + 1)))

/-- Delimits the attribute that starts with the byte `first`.  That byte belongs to the name
whatever it is; `seen` holds the attributes before this one. -/
def RawAttribute.ofFirst (size : Nat) (seen : List RawAttribute) (first : UInt8) (bytes : Bytes) :
    Except AttributeFault (RawAttribute × Bytes) :=
  let start := size - (bytes.length + 1)
  let name := first :: bytes.takeWhile (!endsName ·)
  match (bytes.dropWhile (!endsName ·)).dropWhile isSpace with
  | [] => .error (.missingEquals size)
  | byte :: rest =>
      if byte = equals then
        match seen.find? (·.name = name) with
        | some previous => .error (.duplicate start previous.start)
        | none => (quotedValue size rest).map fun (value, after) => (⟨start, name, value⟩, after)
      else .error (.missingEquals (size - (rest.length + 1)))

/-- Delimits the next attribute; none if only spaces are left. -/
def RawAttribute.next (size : Nat) (seen : List RawAttribute) (bytes : Bytes) :
    Except AttributeFault (Option (RawAttribute × Bytes)) :=
  match bytes.dropWhile isSpace with
  | [] => .ok none
  | first :: rest => (RawAttribute.ofFirst size seen first rest).map some

/-- The bytes after a value are fewer than those before it. -/
theorem length_lt_of_quotedValue {size : Nat} {bytes value after : Bytes}
    (h : quotedValue size bytes = .ok (value, after)) : after.length < bytes.length := by
  unfold quotedValue at h
  split at h
  · simp at h
  · next quote rest hrest =>
      have hbytes := (List.dropWhile_suffix isSpace (l := bytes)).length_le
      rw [hrest, List.length_cons] at hbytes
      split at h
      · split at h
        · simp at h
        · next closing tail htail =>
            have hquote := (List.dropWhile_suffix (· != quote) (l := rest)).length_le
            rw [htail, List.length_cons] at hquote
            simp only [Except.ok.injEq, Prod.mk.injEq] at h
            rw [← h.2]
            omega
      · simp at h

/-- The bytes after an attribute are fewer than those before it. -/
theorem RawAttribute.length_lt_of_ofFirst {size : Nat} {seen : List RawAttribute} {first : UInt8}
    {bytes after : Bytes} {raw : RawAttribute}
    (h : RawAttribute.ofFirst size seen first bytes = .ok (raw, after)) :
    after.length < bytes.length := by
  unfold RawAttribute.ofFirst at h
  simp only at h
  split at h
  · simp at h
  · next byte rest hrest =>
      have hspace := (List.dropWhile_suffix isSpace (l := bytes.dropWhile (!endsName ·))).length_le
      have hname := (List.dropWhile_suffix (!endsName ·) (l := bytes)).length_le
      rw [hrest, List.length_cons] at hspace
      split at h
      · split at h
        · simp at h
        · cases hvalue : quotedValue size rest with
          | error fault => simp [hvalue, Except.map] at h
          | ok pair =>
              obtain ⟨value, tail⟩ := pair
              have hlt := length_lt_of_quotedValue hvalue
              simp only [hvalue, Except.map, Except.ok.injEq, Prod.mk.injEq] at h
              rw [← h.2]
              omega
      · simp at h

/-- The bytes after an attribute are fewer than those before it. -/
theorem RawAttribute.length_lt_of_next {size : Nat} {seen : List RawAttribute}
    {bytes after : Bytes} {raw : RawAttribute}
    (h : RawAttribute.next size seen bytes = .ok (some (raw, after))) :
    after.length < bytes.length := by
  unfold RawAttribute.next at h
  split at h
  · simp at h
  · next first rest hrest =>
      have hspace := (List.dropWhile_suffix isSpace (l := bytes)).length_le
      rw [hrest, List.length_cons] at hspace
      cases hfrom : RawAttribute.ofFirst size seen first rest with
      | error fault => simp [hfrom, Except.map] at h
      | ok pair =>
          obtain ⟨raw', tail⟩ := pair
          have hlt := RawAttribute.length_lt_of_ofFirst hfrom
          simp only [hfrom, Except.map, Except.ok.injEq, Option.some.injEq, Prod.mk.injEq] at h
          rw [← h.2]
          omega

/-- The name and the value of an attribute as text. -/
def RawAttribute.decode (raw : RawAttribute) : Except Error (String × String) := do
  let name ← (Utf8.decodeText raw.name).mapError .attributeName
  let value ← (Utf8.decode raw.value).mapError .attributeText
  let expanded ← (expandReferences value).mapError .malformedReference
  return (name, String.ofList expanded)

/-- Reads the attributes left in `bytes` after those in `seen` and adds them to `attributes`. -/
def readAttributes (size : Nat) (seen : List RawAttribute)
    (attributes : OrderedMap String String) (bytes : Bytes) :
    Except Error (OrderedMap String String) :=
  match _h : RawAttribute.next size seen bytes with
  | .error fault => .error (.malformedAttribute fault)
  | .ok none => .ok attributes
  | .ok (some (raw, after)) =>
      match raw.decode with
      | .error error => .error error
      | .ok (name, value) =>
          readAttributes size (seen ++ [raw]) (attributes.insert name value) after
termination_by bytes.length
decreasing_by exact RawAttribute.length_lt_of_next _h

/-- The bytes of the name in the content of a start tag. -/
def tagName (content : Bytes) : Bytes :=
  content.takeWhile (!isSpace ·)

/-- The node of a start tag, still without children. -/
def Node.ofTagContent (content : Bytes) : Except Error Node := do
  let tag ← (Utf8.decodeText (tagName content)).mapError .tagName
  let attributes ← readAttributes content.length [] ∅ (content.dropWhile (!isSpace ·))
  return ⟨tag, attributes, []⟩

end ClassDiagram.Xml
