import ClassDiagram.Xml.Error

/-!
# References in attribute values

`expandReferences` replaces the five predefined entities and the decimal and
hexadecimal character references.  What a reference stands for is not scanned
again.  A reference runs from `&` to the next `;` and may hold no other `&`.
-/

namespace ClassDiagram.Xml

/-- The number of bytes in the UTF-8 writing of some characters. -/
def byteLength (cs : List Char) : Nat := (Utf8.encode cs).length

/-- The value of a digit in any base up to sixteen. -/
def digitValue? (c : Char) : Option Nat :=
  let code := c.toNat
  if 0x30 ≤ code ∧ code ≤ 0x39 then some (code - 0x30)
  else if 0x41 ≤ code ∧ code ≤ 0x46 then some (code - 0x41 + 10)
  else if 0x61 ≤ code ∧ code ≤ 0x66 then some (code - 0x61 + 10)
  else none

/-- Reads digits after those that make up `value`; the number has to fit in 32 bits. -/
def readDigits (base value : Nat) : List Char → Except ReferenceFault Nat
  | [] => .ok value
  | c :: rest =>
      match (digitValue? c).filter (· < base) with
      | none => .error .invalidDigit
      | some digit =>
          if value * base + digit < 4294967296 then readDigits base (value * base + digit) rest
          else .error .tooLarge

/-- Reads a number without sign. -/
def readNumber (base : Nat) : List Char → Except ReferenceFault Nat
  | [] => .error .emptyNumber
  | c :: rest =>
      if c = '+' ∨ c = '-' then .error .signedNumber else readDigits base 0 (c :: rest)

/-- The character that a reference names by its number, written after `#`. -/
def numberedChar (digits : List Char) : Except ReferenceFault Char := do
  let code ← match digits with
    | 'x' :: rest => readNumber 16 rest
    | _ => readNumber 10 digits
  if code = 0 then .error .zero
  else if code.isValidChar then .ok (Char.ofNat code)
  else .error (.notCharacter code)

/-- The predefined entities. -/
def predefined? (name : List Char) : Option Char :=
  if name = ['l', 't'] then some '<'
  else if name = ['g', 't'] then some '>'
  else if name = ['a', 'm', 'p'] then some '&'
  else if name = ['a', 'p', 'o', 's'] then some (Char.ofNat 0x27)
  else if name = ['q', 'u', 'o', 't'] then some (Char.ofNat 0x22)
  else none

/-- The character that a reference stands for; `name` is what stands at `start` after the `&`. -/
def referredChar (start : Nat) (name : List Char) : Except ReferenceFault Char :=
  match name with
  | '#' :: digits => numberedChar digits
  | _ =>
      match predefined? name with
      | some c => .ok c
      | none => .error (.unknownEntity start (start + byteLength name) (String.ofList name))

/-- Whether a character can stand between `&` and `;`. -/
def inReference (c : Char) : Bool := c != '&' && c != ';'

/-- Expands the references in `cs`, which stands at byte `offset` of its value. -/
def expandFrom (offset : Nat) : List Char → Except ReferenceFault (List Char)
  | [] => .ok []
  | c :: rest =>
      if c = '&' then
        match _h : rest.dropWhile inReference with
        | ';' :: after => do
            let name := rest.takeWhile inReference
            let expanded ← referredChar (offset + 1) name
            let others ← expandFrom (offset + byteLength name + 2) after
            .ok (expanded :: others)
        | _ => .error (.unterminated offset (offset + 1 + byteLength rest))
      else do
        let others ← expandFrom (offset + byteLength [c]) rest
        .ok (c :: others)
termination_by cs => cs.length
decreasing_by
  · have := (List.dropWhile_suffix (l := rest) inReference).length_le
    rw [_h] at this
    simp only [List.length_cons] at this ⊢
    omega
  · simp

/-- The text that an attribute value stands for. -/
def expandReferences (cs : List Char) : Except ReferenceFault (List Char) :=
  expandFrom 0 cs

end ClassDiagram.Xml
