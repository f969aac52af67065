import ClassDiagram.Element.Member

/-!
# Classes and interfaces of a diagram

An entity is named by `Entity (table)`, and the name of the entity starts with
a capital.  A class named `user` is taken for the user class before its members
are read; the entity itself is entered after them.
-/

namespace ClassDiagram

/-- The names of the class or interface that an element declares. -/
def readClassName (kind : EntityKind) (node : Xml.Node) : Except Fault ClassName :=
  match node.text? "name" with
  | none => .error (.unnamedEntity kind)
  | some name =>
      let names := ClassName.split name
      if names.entity = "" then .error (.unnamedEntity kind) else .ok names

/-- Whether an entity of this kind and name can be the user class. -/
def isUserClass (kind : EntityKind) (names : ClassName) : Bool :=
  kind = .concrete && isUserName names.entity

/-- The entity that an element declares, still without members. -/
def entityNamed (names : ClassName) (node : Xml.Node) : Entity :=
  { Entity.named (Text.upperFirst names.entity) names.table with comment := comment? node }

/-- Takes a class for the user class unless there is one, and says whether it has been taken. -/
def takeUserClass (id : ElementId) : Builder Store Bool := do
  let free ← Builder.look (·.userClass.isNone)
  Builder.change (·.claimUserClass id)
  return free

/-- Takes an entity for the user class if it can be, unless there is one. -/
def takeIfUserClass (kind : EntityKind) (names : ClassName) (id : ElementId) :
    Builder Store Unit := do
  if isUserClass kind names then
    if ← takeUserClass id then Builder.report (.userClass id)

/-- Enters the class or interface that an element declares, with its members. -/
def buildEntity (system : TypeSystem) (kind : EntityKind) (node : Xml.Node) :
    Builder Store ElementId := do
  let names ← ofExcept (readClassName kind node)
  let id ← ofExcept (elementId node)
  takeIfUserClass kind names id
  let bare := entityNamed names node
  let entity ← Builder.drafting bare (buildMembers system ⟨id, kind, bare.name⟩ node)
  Builder.report
    (.builtEntity kind entity.name entity.fields.length entity.operations.length)
  Builder.change (·.addEntity kind id entity)
  return id

/-- What `buildEntity` does. -/
def recordEntity (system : TypeSystem) (kind : EntityKind) (node : Xml.Node) :
    Script ElementId := do
  let names ← Script.ofExcept (readClassName kind node)
  let id ← Script.ofExcept (elementId node)
  if isUserClass kind names then Script.edit (.claimUserClass id)
  let bare := entityNamed names node
  let edits ← (recordMembers system ⟨id, kind, bare.name⟩ node).collecting
  let entity := bare.withMembersOf edits
  Script.report
    (.builtEntity kind entity.name entity.fields.length entity.operations.length)
  Script.edit (.addEntity kind id entity)
  return id

end ClassDiagram
