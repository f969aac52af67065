import ClassDiagram.Model.Entity

/-!
# Members of classes and interfaces

Fields and operations.  A type is referred to by a text, which is the id of an
element of the diagram or the name of a type from outside.
-/

namespace ClassDiagram

/-- A field of a class or an interface. -/
structure Field where
  name : String
  /-- The type of the field. -/
  type : String
  comment : Option String
  /-- The entity that declares the field. -/
  owner : ElementId
deriving DecidableEq

/-- A parameter of an operation. -/
structure Parameter where
  name : String
  type : String
deriving DecidableEq

/-- An operation of a class or an interface. -/
structure Operation where
  name : String
  /-- The type of the result; none if there is no result. -/
  returnType : Option String
  parameters : List Parameter
  /-- The entity that declares the operation. -/
  owner : ElementId
deriving DecidableEq

end ClassDiagram
