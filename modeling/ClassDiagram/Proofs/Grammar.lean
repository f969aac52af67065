import ClassDiagram.Diagram

/-!
# Which models are well formed

`WellFormed system model` says what every packaged element of a model must hold
for its kind.  The conditions speak of tags and attributes alone and not of how a
model is read, so that they can be checked against a document by eye.

A condition of this module is one of three sorts: an attribute must be there and
not be empty (`Filled`), a name must stand in the type system (`Listed`), or all
children with a certain tag must meet a condition of their own.
-/

namespace ClassDiagram.Grammar

/-! ## Kinds -/

/-- The words for elements of a kind. -/
def kindWords : ElementKind → List String
  | .type => ["uml:PrimitiveType", "uml:DataType"]
  | .enumeration => ["uml:Enumeration"]
  | .entity .concrete => ["uml:Class"]
  | .entity .interface => ["uml:Interface"]
  | .association => ["uml:Association"]

/-- The element says what it is with this word: in `xsi:type` or, where that is absent, in
`xmi:type`. -/
def DeclaredAs (node : Xml.Node) (word : String) : Prop :=
  node.attribute? "xsi:type" = some word ∨
    node.attribute? "xsi:type" = none ∧ node.attribute? "xmi:type" = some word

instance (node : Xml.Node) (word : String) : Decidable (DeclaredAs node word) :=
  inferInstanceAs (Decidable (_ ∨ _))

/-- The element says that it is of this kind. -/
def HasKind (node : Xml.Node) (kind : ElementKind) : Prop :=
  ∃ word ∈ kindWords kind, DeclaredAs node word

instance (node : Xml.Node) (kind : ElementKind) : Decidable (HasKind node kind) :=
  inferInstanceAs (Decidable (∃ word ∈ kindWords kind, DeclaredAs node word))

/-- The element says that it is of a kind that is read. -/
def Recognised (node : Xml.Node) : Prop := ∃ kind, HasKind node kind

instance (node : Xml.Node) : Decidable (Recognised node) :=
  decidable_of_iff (∃ kind ∈ ElementKind.stages, HasKind node kind)
    ⟨fun ⟨kind, _, h⟩ => ⟨kind, h⟩, fun ⟨kind, h⟩ => ⟨kind, kind.mem_stages, h⟩⟩

/-! ## Attributes and names -/

/-- The attribute is there and is not empty. -/
def Filled (node : Xml.Node) (key : String) : Prop :=
  ∃ value, node.attribute? key = some value ∧ value ≠ ""

/-- The type system has the name, up to the case of ASCII letters. -/
def Listed (system : TypeSystem) (name : String) : Prop :=
  ∃ listed ∈ system.typeNames, Text.asciiFolded listed = Text.asciiFolded name

/-- The name stands in the attribute for names and is not empty. -/
def Named (node : Xml.Node) (name : String) : Prop :=
  node.attribute? "name" = some name ∧ name ≠ ""

/-- The first child that gives a type holds this address, and it is not empty. -/
def Addressed (node : Xml.Node) (address : String) : Prop :=
  ∃ type, node.childTagged? "type" 0 = some type ∧
    type.attribute? "href" = some address ∧ address ≠ ""

/-! ## Types, enumerations and associations -/

/-- A type has an id, and its name, which is empty if it is absent, is one of the type system. -/
def IsType (system : TypeSystem) (node : Xml.Node) : Prop :=
  Filled node idAttribute ∧ Listed system ((node.attribute? "name").getD "")

/-- An enumeration has a name and an id, and its literals have names. -/
def IsEnumeration (node : Xml.Node) : Prop :=
  Filled node "name" ∧ Filled node idAttribute ∧
    ∀ literal ∈ node.childrenTagged "ownedLiteral", Filled literal "name"

/-- An association has an id and two ends, and each end has a type. -/
def IsAssociation (node : Xml.Node) : Prop :=
  Filled node idAttribute ∧ (node.childrenTagged "ownedEnd").length = 2 ∧
    ∀ side ∈ node.childrenTagged "ownedEnd", Filled side "type"

/-! ## Classes and interfaces -/

/-- An attribute has an id and a type; a type from outside is one of the type system. -/
def IsAttribute (system : TypeSystem) (node : Xml.Node) : Prop :=
  Filled node idAttribute ∧
    (Filled node "type" ∨ ∃ address, Addressed node address ∧
      Listed system (Text.upperFirst (typeNameOfAddress address)))

/-- A parameter has a type, which may be any from outside. -/
def IsParameter (node : Xml.Node) : Prop :=
  Filled node "type" ∨ ∃ address, Addressed node address

/-- An operation has an id, and its parameters are well formed. -/
def IsOperation (node : Xml.Node) : Prop :=
  Filled node idAttribute ∧
    ∀ parameter ∈ node.childrenTagged "ownedParameter", IsParameter parameter

/-- A member has a name and meets `condition` unless it is named like an id. -/
def IsMember (condition : Xml.Node → Prop) (node : Xml.Node) : Prop :=
  ∃ name, Named node name ∧ (isIdName name = false → condition node)

/-- The part of a class name before the table is not blank. -/
def NamesEntity (name : String) : Prop :=
  ∃ c ∈ name.toList.takeWhile (· ≠ '('), Text.isBlank c = false

/-- A class or an interface has an id and names an entity, and its members are well formed. -/
def IsEntity (system : TypeSystem) (node : Xml.Node) : Prop :=
  Filled node idAttribute ∧
    (∃ name, Named node name ∧ NamesEntity name) ∧
    (∀ member ∈ node.childrenTagged attributeTag, IsMember (IsAttribute system) member) ∧
    ∀ member ∈ node.childrenTagged operationTag, IsMember IsOperation member

/-! ## Models -/

/-- The element is well formed for its kind. -/
def IsElement (system : TypeSystem) (node : Xml.Node) : ElementKind → Prop
  | .type => IsType system node
  | .enumeration => IsEnumeration node
  | .entity _ => IsEntity system node
  | .association => IsAssociation node

/-- Every packaged element of a kind that is read is well formed. -/
def WellFormed (system : TypeSystem) (model : Xml.Node) : Prop :=
  ∀ node ∈ model.childrenTagged Packages.elementTag, ∀ kind,
    HasKind node kind → IsElement system node kind

end ClassDiagram.Grammar
