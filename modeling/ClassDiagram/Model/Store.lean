import ClassDiagram.OrderedMap
import ClassDiagram.Model.Association
import ClassDiagram.Model.Member
import ClassDiagram.Model.Type

/-!
# The model of a diagram

`Store` holds what a diagram declares, by id and in the order in which the
elements arrived.  Entities hold only the ids of their members; the members
themselves are kept in two maps for the whole diagram.
-/

namespace ClassDiagram

/-- The elements of a diagram. -/
structure Store where
  types : OrderedMap ElementId DataType
  enumerations : OrderedMap ElementId Enumeration
  classes : OrderedMap ElementId Entity
  interfaces : OrderedMap ElementId Entity
  fields : OrderedMap ElementId Field
  operations : OrderedMap ElementId Operation
  associations : OrderedMap ElementId Association
  /-- The class that stands for the users of the system. -/
  userClass : Option ElementId

namespace Store

/-- The store without elements. -/
def empty : Store := ⟨∅, ∅, ∅, ∅, ∅, ∅, ∅, none⟩

/-! ## Adding elements

An element replaces one of the same sort with the same id, in its place. -/

/-- Adds a type. -/
def addType (store : Store) (id : ElementId) (type : DataType) : Store :=
  { store with types := store.types.insert id type }

/-- Adds an enumeration. -/
def addEnumeration (store : Store) (id : ElementId) (enumeration : Enumeration) : Store :=
  { store with enumerations := store.enumerations.insert id enumeration }

/-- Adds a class or an interface to the map of its kind. -/
def addEntity (store : Store) (kind : EntityKind) (id : ElementId) (entity : Entity) : Store :=
  match kind with
  | .concrete => { store with classes := store.classes.insert id entity }
  | .interface => { store with interfaces := store.interfaces.insert id entity }

/-- Adds a field. -/
def addField (store : Store) (id : ElementId) (field : Field) : Store :=
  { store with fields := store.fields.insert id field }

/-- Adds an operation. -/
def addOperation (store : Store) (id : ElementId) (operation : Operation) : Store :=
  { store with operations := store.operations.insert id operation }

/-- Adds an association. -/
def addAssociation (store : Store) (id : ElementId) (association : Association) : Store :=
  { store with associations := store.associations.insert id association }

/-- Makes `id` the user class unless there is one. -/
def claimUserClass (store : Store) (id : ElementId) : Store :=
  { store with userClass := store.userClass.or (some id) }

/-! ## Looking elements up -/

/-- Whether `id` names a type or an enumeration of the store. -/
def knowsType (store : Store) (id : ElementId) : Bool :=
  store.types.contains id || store.enumerations.contains id

/-- The class with this id or, if there is none, the interface. -/
def entity? (store : Store) (id : ElementId) : Option (EntityKind × Entity) :=
  match store.classes.get? id with
  | some entity => some (.concrete, entity)
  | none => (store.interfaces.get? id).map fun entity => (.interface, entity)

/-- The fields of an entity in the order of declaration, without those that are missing. -/
def fieldsOf (store : Store) (entity : Entity) : List Field :=
  entity.fields.filterMap store.fields.get?

/-- The operations of an entity in the order of declaration, without those that are missing. -/
def operationsOf (store : Store) (entity : Entity) : List Operation :=
  entity.operations.filterMap store.operations.get?

/-- The oldest class with this name. -/
def findClass? (store : Store) (name : String) : Option (ElementId × Entity) :=
  store.classes.entries.find? (·.2.name = name)

/-- The oldest interface with this name. -/
def findInterface? (store : Store) (name : String) : Option (ElementId × Entity) :=
  store.interfaces.entries.find? (·.2.name = name)

end Store

end ClassDiagram
