import ClassDiagram.Utf8

/-!
# The bytes that structure a document

Markup is read byte by byte; the bytes with a meaning in it are all ASCII and
so never occur inside the writing of another character.
-/

namespace ClassDiagram.Xml

/-- The byte of an ASCII character. -/
def asciiByte (c : Char) : UInt8 := UInt8.ofNat c.toNat

/-- The byte `<`, which opens every piece of markup. -/
def openAngle : UInt8 := 0x3C

/-- The byte `>`, which closes every piece of markup. -/
def closeAngle : UInt8 := 0x3E

/-- The byte `/`, first in an end tag and last in an empty-element tag. -/
def slash : UInt8 := 0x2F

/-- The byte `!`, first in comments, character data sections and document types. -/
def bang : UInt8 := 0x21

/-- The byte `?`, first and last in a processing instruction. -/
def question : UInt8 := 0x3F

/-- The byte `-`, which bounds comments. -/
def hyphen : UInt8 := 0x2D

/-- The byte `[`, which opens a character data section. -/
def openBracket : UInt8 := 0x5B

/-- The byte `]`, which closes a character data section. -/
def closeBracket : UInt8 := 0x5D

/-- The byte `=`, between an attribute and its value. -/
def equals : UInt8 := 0x3D

/-- Whether a byte is a double or a single quote. -/
def isQuote (byte : UInt8) : Bool := byte == 0x22 || byte == 0x27

/-- Whether a byte is a space, a tab, a line feed or a carriage return. -/
def isSpace (byte : UInt8) : Bool :=
  byte == 0x20 || byte == 0x09 || byte == 0x0A || byte == 0x0D

/-- The bytes of an ASCII keyword. -/
def keyword (text : String) : Bytes := text.toList.map asciiByte

/-- The small form of an ASCII capital; any other byte is kept. -/
def smallByte (byte : UInt8) : UInt8 :=
  if 0x41 ≤ byte ∧ byte ≤ 0x5A then byte + 0x20 else byte

end ClassDiagram.Xml
