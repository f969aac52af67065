import ClassDiagram.Text.UnprintableTable

/-!
# Quoted text in messages

`quote` writes a text between double quotes so that it can be read on one line:
a quote, a backslash and the common controls get a backslash, and any other
character that cannot be seen on its own is written by its code point.
-/

namespace ClassDiagram.Text

/-- The digits of `n` in base sixteen, small letters, without leading zeros. -/
def hexDigits (n : Nat) : List Char :=
  Nat.toDigits 16 n

/-- Whether a character is shown by its code point. -/
def isUnprintable (c : Char) : Bool :=
  unprintableRanges.any fun range => decide (range.1 ≤ c.toNat) && decide (c.toNat ≤ range.2)

/-- A character as it stands between the quotes. -/
def quoteChar (c : Char) : List Char :=
  match c.toNat with
  | 0x00 => ['\\', '0']
  | 0x09 => ['\\', 't']
  | 0x0A => ['\\', 'n']
  | 0x0D => ['\\', 'r']
  | 0x22 => ['\\', c]
  | 0x5C => ['\\', c]
  | code =>
      if isUnprintable c then ['\\', 'u', Char.ofNat 0x7B] ++ hexDigits code ++ [Char.ofNat 0x7D]
      else [c]

/-- The text between double quotes. -/
def quote (text : String) : String :=
  String.ofList (Char.ofNat 0x22 :: text.toList.flatMap quoteChar ++ [Char.ofNat 0x22])

end ClassDiagram.Text
