/-!
# Classes and interfaces

An `Entity` is a class or an interface: its names, the ids of its members in the
order of their declaration, and the options for code generators.  Both kinds of
entity have the same shape; `EntityKind` tells them apart.
-/

namespace ClassDiagram

/-- What names an element of a diagram; a type from outside is named by its own name. -/
abbrev ElementId := String

/-- Whether data transfer objects are wanted. -/
inductive Dto where
  | no
  | mapstruct
deriving DecidableEq

/-- How lists are split into pages. -/
inductive Pagination where
  | no
  | pager
  | pagination
  | infiniteScroll
deriving DecidableEq

/-- Which service layer is wanted. -/
inductive Service where
  | no
  | serviceClass
  | serviceImpl
deriving DecidableEq

/-- Whether an entity is a class or an interface. -/
inductive EntityKind where
  | concrete
  | interface
deriving DecidableEq

/-- The word for the kind. -/
def EntityKind.text : EntityKind → String
  | concrete => "class"
  | interface => "interface"

/-- A class or an interface. -/
structure Entity where
  name : String
  tableName : String
  /-- The ids of its fields. -/
  fields : List ElementId
  /-- The ids of its operations. -/
  operations : List ElementId
  comment : Option String
  dto : Dto
  pagination : Pagination
  service : Service
  microserviceName : Option String
  searchEngine : Option String
deriving DecidableEq

namespace Entity

/-- An entity without members and with default options.  Where no table is named, or the table
has the empty name, the table is named as the entity is. -/
def named (name : String) (table : Option String) : Entity where
  name := name
  tableName := (table.filter (· ≠ "")).getD name
  fields := []
  operations := []
  comment := none
  dto := .no
  pagination := .no
  service := .no
  microserviceName := none
  searchEngine := none

/-- The entity with more members after those it has. -/
def addMembers (entity : Entity) (fields operations : List ElementId) : Entity :=
  { entity with fields := entity.fields ++ fields, operations := entity.operations ++ operations }

end Entity

end ClassDiagram
