import ClassDiagram.Element.Type

/-!
# Members of classes and interfaces

Attributes become fields and operations stay operations; members named like an
id are passed over.  The type of a member is an id of the diagram, written in the
member itself, or a type from outside, given by its address.  A field whose type
is from outside enters that type under its own name.
-/

namespace ClassDiagram

/-- The entity whose members are read. -/
structure Owner where
  id : ElementId
  kind : EntityKind
  name : String

/-- Where the type of a member comes from. -/
inductive TypeSource where
  /-- An element of the diagram. -/
  | inside (id : ElementId)
  /-- A type from outside, by its name. -/
  | outside (name : String)
deriving DecidableEq

/-- Where the type of a member or parameter comes from, if it has one. -/
def TypeSource.ofNode? (node : Xml.Node) : Option TypeSource :=
  match node.text? "type" with
  | some id => some (.inside id)
  | none =>
      ((node.childTagged? "type" 0).bind (·.text? "href")).map fun address =>
        .outside (Text.upperFirst (typeNameOfAddress address))

/-! ## Fields -/

/-- Reports the type of a field if it is not in the store. -/
def reportUnknownType (owner : Owner) (name : String) (type : ElementId) : Builder Store Unit := do
  unless ← Builder.look (·.knowsType type) do
    Builder.report (.unknownType name owner.kind owner.name type)

/-- The type of a field, entered in the store if it comes from outside. -/
def buildFieldType (system : TypeSystem) (owner : Owner) (name : String) (node : Xml.Node) :
    Builder Store String :=
  match TypeSource.ofNode? node with
  | some (.inside id) => do
      reportUnknownType owner name id
      return id
  | some (.outside typeName) => do
      let canonical ← ofExcept (system.canonicalize typeName)
      let _ ← enterType system canonical canonical
      return canonical
  | none => ofExcept (.error (.untypedField name owner.kind owner.name))

/-- The field that an attribute named `name` declares. -/
def buildField (system : TypeSystem) (owner : Owner) (name : String) (node : Xml.Node) :
    Builder Store (ElementId × Field) := do
  let type ← buildFieldType system owner name node
  let id ← ofExcept (elementId node)
  return (id, ⟨Text.lowerFirst name, type, comment? node, owner.id⟩)

/-- Enters the field that an attribute named `name` declares. -/
def buildAttribute (system : TypeSystem) (owner : Owner) (name : String) (node : Xml.Node) :
    Builder Draft Unit := do
  let (id, field) ← Builder.onStore (buildField system owner name node)
  Builder.change (·.addField id field)

/-- What `buildFieldType` does. -/
def fieldType (system : TypeSystem) (owner : Owner) (name : String) (node : Xml.Node) :
    Script String :=
  match TypeSource.ofNode? node with
  | some (.inside id) => do
      Script.edit (.referToType name owner.kind owner.name id)
      return id
  | some (.outside typeName) => do
      let canonical ← Script.ofExcept (system.canonicalize typeName)
      registerType system canonical canonical
  | none => .ofExcept (.error (.untypedField name owner.kind owner.name))

/-- What `buildAttribute` does. -/
def recordField (system : TypeSystem) (owner : Owner) (name : String) (node : Xml.Node) :
    Script Unit := do
  let type ← fieldType system owner name node
  let id ← Script.ofExcept (elementId node)
  Script.edit (.addField id ⟨Text.lowerFirst name, type, comment? node, owner.id⟩)

/-! ## Operations -/

/-- What a parameter stands for. -/
inductive ParameterRole where
  /-- The result of the operation, by its type. -/
  | result (type : String)
  /-- A parameter to be supplied. -/
  | argument (parameter : Parameter)
deriving DecidableEq

namespace ParameterRole

/-- The type of a result. -/
def result? : ParameterRole → Option String
  | result type => some type
  | argument _ => none

/-- The parameter of an argument. -/
def argument? : ParameterRole → Option Parameter
  | result _ => none
  | argument parameter => some parameter

end ParameterRole

/-- The name by which a parameter is the result. -/
def resultName : String := "returnParameter"

/-- Whether a parameter is the result of its operation. -/
def isResult (node : Xml.Node) : Bool :=
  node.text? "name" = some resultName || node.attribute? "direction" = some "return"

/-- The name of the parameter at position `index`, which may be left out. -/
def parameterName (index : Nat) (node : Xml.Node) : String :=
  match node.text? "name" with
  | some name => Text.lowerFirst name
  | none => s!"arg{index}"

/-- The type of a parameter. -/
def parameterType (owner : Owner) (operation : String) (node : Xml.Node) :
    Except Fault String :=
  match TypeSource.ofNode? node with
  | some (.inside id) => .ok id
  | some (.outside name) => .ok name
  | none =>
      .error (.untypedParameter ((node.text? "name").getD "") operation owner.kind owner.name)

/-- The role of the parameter at position `index`. -/
def parameterRole (owner : Owner) (operation : String) (node : Xml.Node) (index : Nat) :
    Except Fault ParameterRole := do
  let type ← parameterType owner operation node
  return if isResult node then .result type else .argument ⟨parameterName index node, type⟩

/-- The operation named `name` that an element declares.  Of several results the last counts. -/
def readOperation (owner : Owner) (name : String) (node : Xml.Node) :
    Except Fault (ElementId × Operation) := do
  let roles ← (node.childrenTagged "ownedParameter").zipIdx.mapM fun (parameter, index) =>
    parameterRole owner name parameter index
  let id ← elementId node
  return (id, {
    name := Text.lowerFirst name
    returnType := (roles.filterMap (·.result?)).getLast?
    parameters := roles.filterMap (·.argument?)
    owner := owner.id })

/-- Enters the operation named `name` that an element declares. -/
def buildOperation (owner : Owner) (name : String) (node : Xml.Node) : Builder Draft Unit := do
  let (id, operation) ← ofExcept (readOperation owner name node)
  Builder.change (·.addOperation id operation)

/-- What `buildOperation` does. -/
def recordOperation (owner : Owner) (name : String) (node : Xml.Node) : Script Unit := do
  let (id, operation) ← Script.ofExcept (readOperation owner name node)
  Script.edit (.addOperation id operation)

/-! ## All members -/

/-- The tag of attributes. -/
def attributeTag : String := "ownedAttribute"

/-- The tag of operations. -/
def operationTag : String := "ownedOperation"

/-- Enters a member with `build`, unless it is named like an id. -/
def buildMember (sort : MemberSort) (owner : Owner)
    (build : String → Xml.Node → Builder Draft Unit) (node : Xml.Node) : Builder Draft Unit :=
  match node.text? "name" with
  | none => ofExcept (.error (.unnamedMember sort owner.kind owner.name))
  | some name =>
      if isIdName name then Builder.report (.skippedIdMember sort owner.kind owner.name)
      else build name node

/-- Enters the members that an element declares: first its attributes, then its operations. -/
def buildMembers (system : TypeSystem) (owner : Owner) (node : Xml.Node) :
    Builder Draft Unit := do
  (node.childrenTagged attributeTag).forM
    (buildMember .field owner (buildAttribute system owner))
  (node.childrenTagged operationTag).forM
    (buildMember .operation owner (buildOperation owner))

/-- What `buildMember` does where `record` says what its builder does. -/
def recordMember (sort : MemberSort) (owner : Owner) (record : String → Xml.Node → Script Unit)
    (node : Xml.Node) : Script Unit :=
  match node.text? "name" with
  | none => .ofExcept (.error (.unnamedMember sort owner.kind owner.name))
  | some name =>
      if isIdName name then Script.report (.skippedIdMember sort owner.kind owner.name)
      else record name node

/-- What `buildMembers` does. -/
def recordMembers (system : TypeSystem) (owner : Owner) (node : Xml.Node) : Script Unit := do
  (node.childrenTagged attributeTag).forM
    (recordMember .field owner (recordField system owner))
  (node.childrenTagged operationTag).forM
    (recordMember .operation owner (recordOperation owner))

/-- The entity with the members that some edits add. -/
def Entity.withMembersOf (entity : Entity) (edits : List Edit) : Entity :=
  entity.addMembers (edits.filterMap Edit.fieldId?) (edits.filterMap Edit.operationId?)

end ClassDiagram
