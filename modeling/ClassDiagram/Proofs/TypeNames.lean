import ClassDiagram.Proofs.Addresses
import ClassDiagram.Proofs.Types

/-!
# Two ways to name a type

A diagram names a type of the type system in two ways: a type that is declared by its
name, and the type of an attribute by the last component of an address.  A name is
taken as it stands where it is declared, and with a capital where it is the end of an
address.

The two ways therefore come to the same, in every type system, exactly if the declared
name is the other with a capital, up to the case of ASCII letters (`acceptedAlike_iff`).
One and the same name can be used in both ways if it begins with an ASCII character.
It need not be so for other names: a type system may list a small letter and not its
capital (`type_accepted_attribute_refused`).
-/

namespace ClassDiagram

open Grammar Script

/-- The name after the last `#` is the type named by an address, unless it is a path. -/
theorem typeNameOfAddress_append {name : String} (h : ∀ c ∈ name.toList, c ≠ '#' ∧ c ≠ '/')
    (path : String) : typeNameOfAddress (path ++ "#" ++ name) = name := by
  have hfragment : IsFragment (path ++ "#" ++ name) name :=
    ⟨fun hmark => (h _ hmark).1 rfl, .inr ⟨path, rfl⟩⟩
  exact typeNameOfAddress_of_plain hfragment fun hslash => (h _ hslash).2 rfl

/-! ## What is accepted -/

/-- Nothing is wrong with an attribute but, perhaps, the type at the address that it gives. -/
structure TypedBy (address : String) (member : Xml.Node) : Prop where
  id : Filled member idAttribute
  name : ∃ name, Named member name ∧ isIdName name = false
  outside : ¬Filled member "type"
  addressed : Addressed member address

/-- Whatever entity and store there are, the attribute is accepted and stored as a field of the
type. -/
def EntersField (system : TypeSystem) (owner : Owner) (member : Xml.Node) (type : String) :
    Prop :=
  ∀ draft, ∃ id field,
    ((buildMember .field owner (buildAttribute system owner) member).run draft).result = .ok () ∧
      member.text? idAttribute = some id ∧
      ((buildMember .field owner (buildAttribute system owner) member).run
        draft).state.store.fields.get? id = some field ∧
      field.type = type

/-- Whatever a store holds, the declared type is accepted and stored under the name. -/
def EntersType (system : TypeSystem) (node : Xml.Node) (name : String) : Prop :=
  ∀ store, ∃ id,
    ((buildElement system .type node).run store).result = .ok () ∧
      node.text? idAttribute = some id ∧
      ((buildElement system .type node).run store).store.types.get? id = some ⟨name⟩

/-- In every type system, an attribute is accepted with a type that has `name` at the end of its
address exactly if a type declared with the name `declared` is accepted, and the spelling is the
same. -/
def AcceptedAlike (name declared : String) : Prop :=
  ∀ (system : TypeSystem) (owner : Owner) (path type : String) (member node : Xml.Node),
    TypedBy (path ++ "#" ++ name) member → Filled node idAttribute →
      node.attribute? "name" = some declared →
        (EntersField system owner member type ↔ EntersType system node type)

/-! ## What decides -/

/-- A type that has a spelling is entered under it. -/
theorem recordType_of_canonical? {system : TypeSystem} {node : Xml.Node} {id : ElementId}
    {canonical : String} (hid : node.text? idAttribute = some id)
    (h : system.canonical? ((node.attribute? "name").getD "") = some canonical) :
    recordType system node = ⟨[.registerType id canonical], .ok ()⟩ := by
  have helement : (Script.ofExcept (elementId node)).outcome = .ok id := elementId_eq_ok_iff.2 hid
  rw [recordType, bind_of_ok helement, registerType_of_canonical? h]
  rfl

/-- A declared type is accepted exactly if its name has a spelling, which is its name in the
store. -/
theorem entersType_iff {system : TypeSystem} {node : Xml.Node} (hid : Filled node idAttribute)
    {name : String} :
    EntersType system node name ↔
      system.canonical? ((node.attribute? "name").getD "") = some name := by
  obtain ⟨id, hid⟩ := filled_iff.1 hid
  have hstored : ∀ (canonical : String) (store : Store),
      (Edit.applyAll [.registerType id canonical] store).types.get? id = some ⟨canonical⟩ := by
    intro canonical store
    exact (OrderedMap.get?_insert _ _ _ _).trans (if_pos rfl)
  simp only [EntersType, buildElement_eq, run_replay]
  constructor
  · intro h
    obtain ⟨id', hresult, hid', htype⟩ := h Store.empty
    obtain rfl : id = id' := Option.some.inj (hid.symm.trans hid')
    obtain ⟨-, canonical, -, hcanonical, -⟩ := edits_recordType ⟨_, hresult⟩
    have hspelled := canonical?_of_canonicalize hcanonical
    rw [recordElement, recordType_of_canonical? hid hspelled, run, hstored] at htype
    obtain rfl : canonical = name := congrArg DataType.name (Option.some.inj htype)
    exact hspelled
  · intro hspelled store
    rw [recordElement, recordType_of_canonical? hid hspelled]
    exact ⟨id, rfl, hid, hstored name store⟩

/-- An attribute whose type has a spelling is stored as a field of this type. -/
theorem recordField_of_canonical? {system : TypeSystem} {node : Xml.Node} {id : ElementId}
    {typeName canonical : String} (hid : node.text? idAttribute = some id)
    (hsource : TypeSource.ofNode? node = some (.outside typeName))
    (h : system.canonical? typeName = some canonical) (owner : Owner) (name : String) :
    recordField system owner name node =
      ⟨[.registerType canonical canonical,
        .addField id ⟨Text.lowerFirst name, canonical, comment? node, owner.id⟩], .ok ()⟩ := by
  have helement : (Script.ofExcept (elementId node)).outcome = .ok id := elementId_eq_ok_iff.2 hid
  rw [recordField, fieldType_of_outside hsource h, bind_of_ok rfl, bind_of_ok helement]
  rfl

/-- The type at the address is taken with a capital. -/
theorem TypedBy.typeSource {address : String} {member : Xml.Node} (h : TypedBy address member) :
    TypeSource.ofNode? member = some (.outside (Text.upperFirst (typeNameOfAddress address))) := by
  rw [TypeSource.ofNode?, text?_eq_none_iff.2 h.outside, addressed_iff.1 h.addressed]
  rfl

/-- The attribute is not passed over. -/
theorem TypedBy.exists_recordField {address : String} {member : Xml.Node}
    (h : TypedBy address member) (system : TypeSystem) (owner : Owner) :
    ∃ name, recordMember .field owner (recordField system owner) member =
      recordField system owner name member := by
  obtain ⟨name, hname, hid⟩ := h.name
  refine ⟨name, ?_⟩
  rw [recordMember, text?_eq_some_iff.2 hname]
  exact if_neg (by simp [hid])

/-- An attribute is accepted exactly if the type at its address, with a capital, has a spelling,
which is the type of the field. -/
theorem entersField_iff {system : TypeSystem} {owner : Owner} {address : String}
    {member : Xml.Node} (h : TypedBy address member) {type : String} :
    EntersField system owner member type ↔
      system.canonical? (Text.upperFirst (typeNameOfAddress address)) = some type := by
  obtain ⟨id, hid⟩ := filled_iff.1 h.id
  obtain ⟨name, hrecord⟩ := h.exists_recordField system owner
  have hstored : ∀ (canonical : String) (field : Field) (store : Store),
      (Edit.applyAll [.registerType canonical canonical, .addField id field] store).fields.get? id =
        some field := by
    intro canonical field store
    exact (OrderedMap.get?_insert _ _ _ _).trans (if_pos rfl)
  simp only [EntersField, buildMember_eq (buildAttribute_eq system owner), run_replay_onDraft,
    hrecord]
  constructor
  · intro hfield
    obtain ⟨id', field, hresult, hid', hget, rfl⟩ := hfield ⟨Entity.named "" none, Store.empty⟩
    obtain rfl : id = id' := Option.some.inj (hid.symm.trans hid')
    obtain ⟨_, type, -, htype, -⟩ := edits_recordField ⟨_, hresult⟩
    obtain ⟨canonical, hspelled⟩ := canonical?_of_succeeds_fieldType h.typeSource ⟨type, htype⟩
    rw [recordField_of_canonical? hid h.typeSource hspelled, hstored] at hget
    rw [hspelled, ← Option.some.inj hget]
  · intro hspelled draft
    rw [recordField_of_canonical? hid h.typeSource hspelled]
    exact ⟨id, _, rfl, hid, hstored type _ draft.store, rfl⟩

/-! ## Names that can be used in both ways -/

/-- There is an attribute to every address. -/
theorem typedBy_attributeAt {address : String} (h : address ≠ "") :
    TypedBy address (attributeAt address) where
  id := ⟨"a", rfl, by decide⟩
  name := ⟨"label", ⟨rfl, by decide⟩, by decide +kernel⟩
  outside := by
    rintro ⟨_, hvalue, -⟩
    cases hvalue
  addressed := ⟨(Xml.Node.ofTag "type").withAttribute "href" address, rfl, rfl, h⟩

/-- The end of an address and a declared name are accepted alike, in every type system, exactly if
the one with a capital is the other up to case; a name that begins with an ASCII character can be
used in both ways. -/
theorem acceptedAlike_iff {name : String} (h : ∀ c ∈ name.toList, c ≠ '#' ∧ c ≠ '/') :
    (∀ declared, AcceptedAlike name declared ↔
      Text.asciiFolded (Text.upperFirst name) = Text.asciiFolded declared) ∧
    ((∀ c ∈ name.toList.head?, c.toNat < 0x80) → AcceptedAlike name name) := by
  have hiff : ∀ declared, AcceptedAlike name declared ↔
      Text.asciiFolded (Text.upperFirst name) = Text.asciiFolded declared := by
    intro declared
    rw [← canonical?_eq_iff]
    constructor
    · intro halike system
      have haddress : "" ++ "#" ++ name ≠ "" := by simp
      have hmember := typedBy_attributeAt haddress
      have hnode : Filled (elementNamed "uml:PrimitiveType" "t" declared) idAttribute :=
        ⟨"t", rfl, by decide⟩
      apply Option.ext
      intro type
      have hagree := halike system ⟨"c", .concrete, "Order"⟩ "" type _ _ hmember hnode rfl
      rw [entersField_iff hmember, entersType_iff hnode, typeNameOfAddress_append h] at hagree
      exact hagree
    · intro hspelled system owner path type member node hmember hnode hname
      rw [entersField_iff hmember, entersType_iff hnode, typeNameOfAddress_append h, hname,
        hspelled]
      rfl
  exact ⟨hiff, fun hascii => (hiff name).2 (asciiFolded_upperFirst hascii)⟩

/-- The name of a type in small letters can be used in both ways, and is spelled in both as the
type system has it. -/
theorem acceptedAlike_iff_float :
    AcceptedAlike "float" "float" ∧
      EntersField .sql ⟨"c", .concrete, "Order"⟩ (attributeAt "types.uml#float") "Float" := by
  have halike : AcceptedAlike "float" "float" :=
    (acceptedAlike_iff (by simp)).2 (by simp)
  have hnode : Filled (elementNamed "uml:PrimitiveType" "t" "float") idAttribute :=
    ⟨"t", rfl, by decide⟩
  have htype : EntersType .sql (elementNamed "uml:PrimitiveType" "t" "float") "Float" :=
    (entersType_iff hnode).2 (by decide +kernel)
  have haddress : "types.uml" ++ "#" ++ "float" ≠ "" := by decide
  exact ⟨halike,
    (halike .sql _ "types.uml" "Float" _ _ (typedBy_attributeAt haddress) hnode rfl).2 htype⟩

/-- A type system that lists a name with a small letter at its beginning that is not ASCII. -/
def accented : TypeSystem := ⟨"accented", ["étoile"]⟩

/-- The type is accepted under the name that the system lists, and an attribute whose address ends
in this name is refused. -/
theorem type_accepted_attribute_refused :
    EntersType accented (elementNamed "uml:PrimitiveType" "t" "étoile") "étoile" ∧
      (∀ owner type, ¬EntersField accented owner (attributeAt "types.uml#étoile") type) ∧
      ¬AcceptedAlike "étoile" "étoile" := by
  have hnode : Filled (elementNamed "uml:PrimitiveType" "t" "étoile") idAttribute :=
    ⟨"t", rfl, by decide⟩
  have hmember : TypedBy ("types.uml" ++ "#" ++ "étoile") (attributeAt "types.uml#étoile") :=
    typedBy_attributeAt (by decide)
  have htype : EntersType accented (elementNamed "uml:PrimitiveType" "t" "étoile") "étoile" :=
    (entersType_iff hnode).2 (by decide +kernel)
  have hfield : ∀ owner type,
      ¬EntersField accented owner (attributeAt "types.uml#étoile") type := by
    intro owner type henters
    have hnone : accented.canonical?
        (Text.upperFirst (typeNameOfAddress ("types.uml" ++ "#" ++ "étoile"))) = none := by
      decide +kernel
    rw [entersField_iff hmember, hnone] at henters
    cases henters
  refine ⟨htype, hfield, fun halike => ?_⟩
  exact hfield ⟨"c", .concrete, "Order"⟩ "étoile" ((halike _ _ _ _ _ _ hmember hnode rfl).2 htype)

end ClassDiagram
