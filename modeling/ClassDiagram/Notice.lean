import ClassDiagram.Element.Kind
import ClassDiagram.Fault
import ClassDiagram.Model.Association
import ClassDiagram.Text.Quoted

/-!
# Notices

What is reported while a diagram is read or a file is converted.  A notice has a
constructor for each occasion; its `level` says how important it is and its
`message` puts it into words.
-/

namespace ClassDiagram

/-- How important a notice is, least first. -/
inductive Level where
  | trace
  | debug
  | info
  | warn
deriving DecidableEq

/-- Something worth reporting. -/
inductive Notice where
  | registeredType (name : String) (id : ElementId)
  | skippedElement (index : Nat) (kind : Option String)
  | skippedIdMember (sort : MemberSort) (kind : EntityKind) (owner : String)
  | unknownType (field : String) (kind : EntityKind) (owner : String) (type : ElementId)
  | userClass (id : ElementId)
  | builtEntity (kind : EntityKind) (name : String) (fields operations : Nat)
  | builtAssociation (id source target : ElementId) (cardinality : Cardinality)
  | classified (recognised total : Nat)
  | stageDone (kind : ElementKind)
  | wroteModel (path : String)
  | wroteDeclarations (path input : String)
  | conversionFailed (input reason : String)
deriving DecidableEq

namespace Notice

/-- The importance of a notice. -/
def level : Notice → Level
  | registeredType .. | skippedElement .. | skippedIdMember .. => .trace
  | userClass _ | builtEntity .. | builtAssociation .. | classified .. | stageDone _ => .debug
  | wroteModel _ | wroteDeclarations .. => .info
  | unknownType .. | conversionFailed .. => .warn

/-- An optional text as messages show it. -/
def shownOption : Option String → String
  | none => "None"
  | some text => s!"Some({Text.quote text})"

/-- The notice in words. -/
def message : Notice → String
  | registeredType name id => s!"registered type {name} as {id}"
  | skippedElement index kind =>
      s!"skipping packaged element {index} of kind {shownOption kind}"
  | skippedIdMember sort kind owner => s!"skipping id {sort.text} of {kind.text} '{owner}'"
  | unknownType field kind owner type =>
      s!"field '{field}' of {kind.text} '{owner}' references unknown type id '{type}'"
  | userClass id => s!"class {id} is the user class"
  | builtEntity kind name fields operations =>
      s!"built {kind.text} '{name}' with {fields} field(s), {operations} operation(s)"
  | builtAssociation id source target cardinality =>
      s!"built association {id}: {source} -> {target} ({cardinality.text})"
  | classified recognised total => s!"classified {recognised} of {total} packaged element(s)"
  | stageDone kind => s!"stage {kind.stageText} done"
  | wroteModel path => s!"wrote {path}"
  | wroteDeclarations path input => s!"wrote {path} from {input}"
  | conversionFailed input reason => s!"failed to convert {input}: {reason}"

end Notice

end ClassDiagram
