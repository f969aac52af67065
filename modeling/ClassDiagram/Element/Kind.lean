import ClassDiagram.Model.Entity
import ClassDiagram.Xml.Node

/-!
# Kinds of elements

A diagram is a list of packaged elements, and each says of what kind it is in
its type attribute.  Five kinds are read; an element of any other kind is passed
over.  The kinds are read one after the other, in the order of `stages`: what a
later kind refers to has then been read.
-/

namespace ClassDiagram

/-- The kinds of elements that are read. -/
inductive ElementKind where
  | type
  | enumeration
  | entity (kind : EntityKind)
  | association
deriving DecidableEq

namespace ElementKind

/-- All kinds in the order in which they are read. -/
def stages : List ElementKind :=
  [.type, .enumeration, .entity .concrete, .association, .entity .interface]

/-- The name of the kind. -/
def text : ElementKind → String
  | type => "Type"
  | enumeration => "Enumeration"
  | entity .concrete => "Class"
  | association => "Association"
  | entity .interface => "Interface"

/-- The name of the stage that reads the kind. -/
def stageText : ElementKind → String
  | type => "Types"
  | enumeration => "Enums"
  | entity .concrete => "Classes"
  | association => "Associations"
  | entity .interface => "Interfaces"

/-- The kind with the given word in a type attribute. -/
def ofTypeName? (name : String) : Option ElementKind :=
  if name = "uml:PrimitiveType" ∨ name = "uml:DataType" then some type
  else if name = "uml:Enumeration" then some enumeration
  else if name = "uml:Class" then some (entity .concrete)
  else if name = "uml:Association" then some association
  else if name = "uml:Interface" then some (entity .interface)
  else none

/-- The attribute that tells the kind. -/
def typeAttribute : String := "xsi:type"

/-- The attribute that tells the kind where the first is absent. -/
def otherTypeAttribute : String := "xmi:type"

/-- The kind of an element. -/
def ofNode? (node : Xml.Node) : Option ElementKind :=
  ((node.attribute? typeAttribute).or (node.attribute? otherTypeAttribute)).bind ofTypeName?

/-- Every kind has its stage. -/
theorem mem_stages (kind : ElementKind) : kind ∈ stages := by
  rcases kind with _ | _ | (_ | _) | _ <;> simp [stages]

end ElementKind

end ClassDiagram
