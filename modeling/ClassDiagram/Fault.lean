import ClassDiagram.Model.Entity
import ClassDiagram.Xml.Error

/-!
# Why a diagram is refused

`Fault` has a constructor for each cause.  Each belongs to an `ErrorKind`, whose
heading starts the message; the wording stands in `Fault.detail` alone.
-/

namespace ClassDiagram

/-- The kinds of error that a caller can tell apart. -/
inductive ErrorKind where
  | nullPointer
  | wrongType
  | wrongField
  | wrongDatabaseType
  | unimplementedOperation
  | malformedDocument
  | xml
  | json
  | conversion
  | io
deriving DecidableEq

/-- The words with which messages of this kind start. -/
def ErrorKind.heading : ErrorKind → String
  | nullPointer => "Null pointer"
  | wrongType => "Wrong type"
  | wrongField => "Wrong field"
  | wrongDatabaseType => "Wrong database type"
  | unimplementedOperation => "Unimplemented operation"
  | malformedDocument => "Malformed document"
  | xml => "XML error"
  | json => "JSON error"
  | conversion => "Conversion failed"
  | io => "IO error"

/-- The message of an error of this kind. -/
def ErrorKind.message (kind : ErrorKind) (detail : String) : String :=
  kind.heading ++ ": " ++ detail

/-- The sorts of members of an entity. -/
inductive MemberSort where
  | field
  | operation
deriving DecidableEq

/-- The word that a diagram has for the sort. -/
def MemberSort.text : MemberSort → String
  | field => "attribute"
  | operation => "operation"

/-- The two ends of an association. -/
inductive AssociationEnd where
  | source
  | target
deriving DecidableEq

/-- The word for the end. -/
def AssociationEnd.text : AssociationEnd → String
  | source => "from"
  | target => "to"

/-- Why a diagram, or an element of it, is refused. -/
inductive Fault where
  | unnamedEnumeration
  | unnamedLiteral (enumeration : String)
  | unnamedEntity (kind : EntityKind)
  | unnamedMember (sort : MemberSort) (kind : EntityKind) (owner : String)
  | unsupportedType (name system : String)
  | untypedField (name : String) (kind : EntityKind) (owner : String)
  | untypedParameter (name operation : String) (kind : EntityKind) (owner : String)
  | unsupportedDatabase (supported : List String) (name : String)
  | unsupportedConstraints (dialect : String)
  | missingId (tag name : String)
  | wrongEndCount (association : ElementId) (found : Nat)
  | untypedEnd (side : AssociationEnd) (association : ElementId)
  | missingModel (wrapper model : String)
  | severalModels (wrapper model : String)
  | unexpectedRoot (model wrapper found : String)
  | malformedXml (error : Xml.Error)
deriving DecidableEq

namespace Fault

/-- The kind of error. -/
def kind : Fault → ErrorKind
  | unnamedEnumeration | unnamedLiteral _ | unnamedEntity _ | unnamedMember .. => .nullPointer
  | unsupportedType .. => .wrongType
  | untypedField .. | untypedParameter .. => .wrongField
  | unsupportedDatabase .. => .wrongDatabaseType
  | unsupportedConstraints _ => .unimplementedOperation
  | missingId .. | wrongEndCount .. | untypedEnd .. | missingModel .. | severalModels ..
  | unexpectedRoot .. => .malformedDocument
  | malformedXml _ => .xml

/-- The fault in words. -/
def detail : Fault → String
  | unnamedEnumeration => "The enumeration's name can't be null."
  | unnamedLiteral enumeration => s!"The values of enumeration '{enumeration}' can't be null."
  | unnamedEntity .concrete => "Classes must have a name."
  | unnamedEntity .interface => "Interfaces must have a name."
  | unnamedMember sort kind owner =>
      s!"No name is defined for the passed {sort.text}, for {kind.text} '{owner}'."
  | unsupportedType name system =>
      s!"The type '{name}' isn't supported by the '{system}' type system."
  | untypedField name kind owner =>
      s!"The field '{name}', of {kind.text} '{owner}', does not possess any type."
  | untypedParameter name operation kind owner =>
      s!"The parameter '{name}' of operation '{operation}', of {kind.text} '{owner}', "
        ++ "does not possess any type."
  | unsupportedDatabase supported name =>
      let names := ", ".intercalate (supported.map fun database => s!"'{database}'")
      "The passed database type is incorrect. It must either be " ++ names ++ s!". Got '{name}'."
  | unsupportedConstraints dialect => s!"{dialect} does not support constraints."
  | missingId tag name => s!"The {tag} '{name}' has no xmi:id."
  | wrongEndCount association found =>
      s!"Association '{association}' must own exactly two ends, found {found}."
  | untypedEnd side association =>
      s!"The {side.text} end of association '{association}' has no type."
  | missingModel wrapper model => s!"'{wrapper}' contains no '{model}' element"
  | severalModels wrapper model => s!"'{wrapper}' contains more than one '{model}' element"
  | unexpectedRoot model wrapper found =>
      s!"Expected '{model}' or '{wrapper}' as root element, got '{found}'"
  | malformedXml error => error.message

/-- The whole message. -/
def message (fault : Fault) : String :=
  fault.kind.message fault.detail

end Fault

end ClassDiagram
