import ClassDiagram.Utf8

/-!
# What can be wrong with a document

Each kind of fault is a constructor with the data that its message shows, and
the wording stands in the `message` functions alone.  Positions are byte offsets
from the start of the document, or from the start of the tag or of the value
where the constructor says so.
-/

namespace ClassDiagram.Xml

/-- Markup that does not come to an end, or that is of no known kind. -/
inductive SyntaxFault where
  | unknownMarkup
  | unclosedInstruction
  | unclosedComment
  | unclosedDoctype
  | unclosedSection
  | unclosedTag
deriving DecidableEq

/-- The fault in words. -/
def SyntaxFault.message : SyntaxFault → String
  | unknownMarkup => "unknown or missed symbol in markup"
  | unclosedInstruction =>
      "processing instruction or xml declaration not closed: `?>` not found before end of input"
  | unclosedComment => "comment not closed: `-->` not found before end of input"
  | unclosedDoctype => "DOCTYPE not closed: `>` not found before end of input"
  | unclosedSection => "CDATA not closed: `]]>` not found before end of input"
  | unclosedTag => "tag not closed: `>` not found before end of input"

/-- Markup that is complete but may not stand where it stands. -/
inductive FormFault where
  | namelessDoctype
  | strayEndTag (name : String)
  | mismatchedEndTag (expected found : String)
deriving DecidableEq

/-- The fault in words. -/
def FormFault.message : FormFault → String
  | namelessDoctype => "`<!DOCTYPE>` declaration does not contain a name of a document type"
  | strayEndTag name => s!"close tag `</{name}>` does not match any open tag"
  | mismatchedEndTag expected found => s!"expected `</{expected}>`, but `</{found}>` was found"

/-- A malformed attribute; positions count from the first byte of the tag's content. -/
inductive AttributeFault where
  | missingEquals (position : Nat)
  | missingValue (position : Nat)
  | unquotedValue (position : Nat)
  | unclosedQuote (position : Nat) (quote : UInt8)
  | duplicate (position previous : Nat)
deriving DecidableEq

/-- The fault in words, after its position. -/
def AttributeFault.message : AttributeFault → String
  | missingEquals position =>
      s!"position {position}: attribute key must be directly followed by `=` or space"
  | missingValue position => s!"position {position}: `=` must be followed by an attribute value"
  | unquotedValue position =>
      s!"position {position}: attribute value must be enclosed in `\"` or `'`"
  | unclosedQuote position quote =>
      let mark := String.singleton (Char.ofNat quote.toNat)
      s!"position {position}: missing closing quote `{mark}` in attribute value"
  | duplicate position previous =>
      s!"position {position}: duplicated attribute, previous declaration at position {previous}"

/-- A malformed reference; positions are byte offsets within the attribute value. -/
inductive ReferenceFault where
  | unterminated (start stop : Nat)
  | unknownEntity (start stop : Nat) (name : String)
  | signedNumber
  | emptyNumber
  | invalidDigit
  | tooLarge
  | zero
  | notCharacter (code : Nat)
deriving DecidableEq

/-- The fault in words. -/
def ReferenceFault.message : ReferenceFault → String
  | unterminated start stop =>
      s!"Error while escaping character at range {start}..{stop}: Cannot find ';' after '&'"
  | unknownEntity start stop name => s!"at {start}..{stop}: unrecognized entity `{name}`"
  | signedNumber => "invalid character reference: unexpected number sign"
  | emptyNumber => "invalid character reference: cannot parse integer from empty string"
  | invalidDigit => "invalid character reference: invalid digit found in string"
  | tooLarge => "invalid character reference: number too large to fit in target type"
  | zero => "invalid character reference: 0x0 character is not permitted in XML"
  | notCharacter code => s!"invalid character reference: `{code}` is not a valid codepoint"

/-- Why a text is not a document. -/
inductive Error where
  /-- Markup at `position` cannot be delimited. -/
  | syntaxAt (position : Nat) (fault : SyntaxFault)
  /-- Markup at `position` is out of place. -/
  | formAt (position : Nat) (fault : FormFault)
  /-- A tag name is not UTF-8. -/
  | tagName (fault : Utf8.Fault)
  /-- An attribute name is not UTF-8. -/
  | attributeName (fault : Utf8.Fault)
  /-- An attribute value is not UTF-8. -/
  | attributeText (fault : Utf8.Fault)
  /-- An attribute is malformed. -/
  | malformedAttribute (fault : AttributeFault)
  /-- A reference in an attribute value is malformed. -/
  | malformedReference (fault : ReferenceFault)
  /-- An end tag closes no node. -/
  | closingNothing
  /-- The document ends inside an element. -/
  | unclosedElement (tag : String)
  /-- The document holds no element. -/
  | noRoot
  /-- A second element stands beside the root. -/
  | severalRoots (tag : String)
deriving DecidableEq

/-- The error in words, after the place where it stands. -/
def Error.message : Error → String
  | syntaxAt position fault =>
      s!"XML parse error at position {position}: syntax error: " ++ fault.message
  | formAt position fault =>
      s!"XML parse error at position {position}: ill-formed document: " ++ fault.message
  | tagName fault => "Invalid tag name: " ++ fault.message
  | attributeName fault => "Attribute key error: " ++ fault.message
  | attributeText fault =>
      "Attribute value error: cannot decode input using UTF-8: " ++ fault.message
  | malformedAttribute fault => "Attribute error: " ++ fault.message
  | malformedReference fault => "Attribute value error: " ++ fault.message
  | closingNothing => "Unexpected closing tag"
  | unclosedElement tag => s!"Unclosed element '{tag}'"
  | noRoot => "Document has no root element"
  | severalRoots tag => s!"Multiple root elements: unexpected '{tag}'"

end ClassDiagram.Xml
