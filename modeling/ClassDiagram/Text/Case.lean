import ClassDiagram.Text.CaseTable

/-!
# Upper and lower case

`upper` and `lower` map one character to the characters of its other form, by
the full mappings of the Unicode standard: one character may become several,
as `ß` becomes `SS`.  `upperFirst` and `lowerFirst` change the first character
of a text and keep the rest; `upperAll` changes every character by itself.
-/

namespace ClassDiagram.Text

/-- Where a run sends `code`, if `code` is one of its members. -/
def CaseRun.image? (run : CaseRun) (code : Nat) : Option Nat :=
  if run.first ≤ code ∧ code ≤ run.last ∧ (code - run.first) % run.step = 0 then
    some (run.target + (code - run.first))
  else none

/-- The code points that `code` maps to. -/
def CaseTable.apply (table : CaseTable) (code : Nat) : List Nat :=
  match table.expansions.lookup code with
  | some codes => codes
  | none => [(table.runs.findSome? (·.image? code)).getD code]

/-- The upper-case form of a character. -/
def upper (c : Char) : List Char :=
  (upperTable.apply c.toNat).map Char.ofNat

/-- The lower-case form of a character. -/
def lower (c : Char) : List Char :=
  (lowerTable.apply c.toNat).map Char.ofNat

/-- Applies `form` to the first character only. -/
def mapFirst (form : Char → List Char) : List Char → List Char
  | [] => []
  | c :: rest => form c ++ rest

/-- The text with its first character in upper case. -/
def upperFirst (text : String) : String :=
  String.ofList (mapFirst upper text.toList)

/-- The text with its first character in lower case. -/
def lowerFirst (text : String) : String :=
  String.ofList (mapFirst lower text.toList)

/-- The text with every character in upper case. -/
def upperAll (text : String) : String :=
  String.ofList (text.toList.flatMap upper)

end ClassDiagram.Text
