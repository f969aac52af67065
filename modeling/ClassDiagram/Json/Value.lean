/-!
# JSON text

`Value` is the part of JSON that models are written in: null, texts, arrays and
objects whose members have an order.  `Value.pretty` is the text over several
lines, with two spaces of indentation for each level; arrays and objects without
content stay on one line.

A text is escaped only where JSON asks for it: quotes, backslashes and control
characters below the space.
-/

namespace ClassDiagram.Json

/-- A JSON value. -/
inductive Value where
  | null
  | text (value : String)
  | array (items : List Value)
  | object (members : List (String × Value))
deriving Inhabited

/-- The double quote, which bounds texts. -/
def quoteMark : Char := Char.ofNat 0x22

/-- The digit in base sixteen of a value below sixteen. -/
def hexDigit (value : Nat) : Char :=
  Char.ofNat (if value < 10 then 0x30 + value else 0x57 + value)

/-- A character as it stands in a quoted text. -/
def escapeChar (c : Char) : List Char :=
  match c.toNat with
  | 0x22 => ['\\', c]
  | 0x5C => ['\\', c]
  | 0x08 => ['\\', 'b']
  | 0x0C => ['\\', 'f']
  | 0x0A => ['\\', 'n']
  | 0x0D => ['\\', 'r']
  | 0x09 => ['\\', 't']
  | code =>
      if code < 0x20 then ['\\', 'u', '0', '0', hexDigit (code / 16), hexDigit (code % 16)]
      else [c]

/-- A text between quotes. -/
def quoted (text : String) : List Char :=
  quoteMark :: text.toList.flatMap escapeChar ++ [quoteMark]

/-- A new line at the given level. -/
def newLine (level : Nat) : List Char :=
  '\n' :: List.replicate (2 * level) ' '

mutual

/-- The text of a value that starts on a line of the given level. -/
def Value.prettyAt (level : Nat) : Value → List Char
  | .null => ['n', 'u', 'l', 'l']
  | .text value => quoted value
  | .array [] => ['[', ']']
  | .array (item :: items) =>
      '[' :: newLine (level + 1) ++ item.prettyAt (level + 1) ++ prettyItems (level + 1) items
        ++ newLine level ++ [']']
  | .object [] => [Char.ofNat 0x7B, Char.ofNat 0x7D]
  | .object ((key, value) :: members) =>
      Char.ofNat 0x7B :: newLine (level + 1) ++ quoted key ++ [':', ' ']
        ++ value.prettyAt (level + 1) ++ prettyMembers (level + 1) members
        ++ newLine level ++ [Char.ofNat 0x7D]

/-- The items of an array after the first. -/
def prettyItems (level : Nat) : List Value → List Char
  | [] => []
  | item :: items => ',' :: newLine level ++ item.prettyAt level ++ prettyItems level items

/-- The members of an object after the first. -/
def prettyMembers (level : Nat) : List (String × Value) → List Char
  | [] => []
  | (key, value) :: members =>
      ',' :: newLine level ++ quoted key ++ [':', ' '] ++ value.prettyAt level
        ++ prettyMembers level members

end

/-- The text of a value over several lines. -/
def Value.pretty (value : Value) : String :=
  String.ofList (value.prettyAt 0)

end ClassDiagram.Json
