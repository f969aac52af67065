import ClassDiagram.Element.Name
import ClassDiagram.Script

/-!
# Associations of a diagram

An association owns two ends.  The first leads to its target and the second
back to its source; each end names the field by which the class at the other end
refers to it.
-/

namespace ClassDiagram

/-- Whether many objects can stand at an end. -/
def isMany (node : Xml.Node) : Bool :=
  (node.childTagged? "upperValue" 0).bind (·.attribute? "value") = some "*"

/-- The class at an end. -/
def endType (side : AssociationEnd) (association : ElementId) (node : Xml.Node) :
    Except Fault ElementId :=
  match node.text? "type" with
  | some type => .ok type
  | none => .error (.untypedEnd side association)

/-- The association with the given id, comment and ends. -/
def joinEnds (id : ElementId) (comment : String) (target source : Xml.Node) :
    Except Fault Association := do
  let sourceType ← endType .source id source
  let targetType ← endType .target id target
  return {
    source := sourceType
    target := targetType
    fieldInSource := target.text? "name"
    fieldInTarget := source.text? "name"
    cardinality := .ofEnds (isMany target) (isMany source)
    commentInSource := comment
    commentInTarget := comment }

/-- The association that an element declares. -/
def readAssociation (node : Xml.Node) : Except Fault (ElementId × Association) := do
  let id ← elementId node
  match node.childrenTagged "ownedEnd" with
  | [target, source] => do
      let association ← joinEnds id ((comment? node).getD "") target source
      return (id, association)
  | ends => .error (.wrongEndCount id ends.length)

/-- Enters the association that an element declares. -/
def buildAssociation (node : Xml.Node) : Builder Store (ElementId × Association) := do
  let (id, association) ← ofExcept (readAssociation node)
  Builder.report
    (.builtAssociation id association.source association.target association.cardinality)
  Builder.change (·.addAssociation id association)
  return (id, association)

/-- What `buildAssociation` does. -/
def recordAssociation (node : Xml.Node) : Script (ElementId × Association) := do
  let (id, association) ← Script.ofExcept (readAssociation node)
  Script.report
    (.builtAssociation id association.source association.target association.cardinality)
  Script.edit (.addAssociation id association)
  return (id, association)

end ClassDiagram
