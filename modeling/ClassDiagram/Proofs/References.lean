import ClassDiagram.Proofs.EntityIds
import ClassDiagram.Proofs.Types

/-!
# References lead somewhere

A store refers to its elements by their ids: an entity to its members, a member to its
owner, a field to its type.  While a model is read the reference may be there before the
element, as members are stored before their owner, and an element may be replaced by one
with the same id.  The store of a model is nevertheless `Closed`, even if ids are repeated
(`closed_of_readModel`): what an element refers to is written by the same element, and
nothing that is written under an id ever goes away.

A field whose type is from outside has this type under its own name in the store, as
types that are declared are all read before (`get?_types_of_buildsField`).
-/

namespace ClassDiagram

open Grammar Script

variable {υ : Type}

/-! ## Where fields come from -/

/-- The attribute of a class or an interface builds the entry among the fields. -/
def BuildsField (system : TypeSystem) (kind : EntityKind) (node member : Xml.Node)
    (entry : ElementId × Field) : Prop :=
  ∃ names id name, readClassName kind node = .ok names ∧ node.text? idAttribute = some id ∧
    member ∈ membersOf attributeTag node ∧ member.text? "name" = some name ∧
    entry ∈ StorePart.fields.written
      (recordField system (ownerOf kind names id) name member).edits

/-- An attribute that builds a field is accepted. -/
theorem succeeds_of_mem_written_recordField {system : TypeSystem} {owner : Owner} {name : String}
    {node : Xml.Node} {entry : ElementId × Field}
    (h : entry ∈ StorePart.fields.written (recordField system owner name node).edits) :
    (recordField system owner name node).Succeeds := by
  unfold recordField at h ⊢
  cases houtcome : (fieldType system owner name node).outcome with
  | error fault =>
      rw [bind_of_error houtcome, MemberPart.written_fields_fieldType] at h
      cases h
  | ok type =>
      cases hid : elementId node with
      | error fault =>
          have hfails : (Script.ofExcept (elementId node)).outcome = .error fault := hid
          rw [edits_bind houtcome, bind_of_error hfails, StorePart.written_append,
            MemberPart.written_fields_fieldType] at h
          cases h
      | ok id => exact succeeds_bind.2 ⟨type, houtcome, succeeds_bind.2 ⟨id, rfl, succeeds_edit _⟩⟩

/-- An attribute without a type of the diagram that is accepted brings its type from outside. -/
theorem outsideType?_of_fieldType {system : TypeSystem} {owner : Owner} {name type : String}
    {node : Xml.Node} (h : (fieldType system owner name node).outcome = .ok type)
    (hempty : ¬Filled node "type") : outsideType? system node = some type := by
  rcases typeSource_cases node with ⟨hfilled, -⟩ | ⟨-, address, -, hsource⟩ | ⟨-, -, hsource⟩
  · exact absurd hfilled hempty
  · obtain ⟨canonical, hcanonical⟩ := canonical?_of_succeeds_fieldType hsource ⟨type, h⟩
    rw [fieldType_of_outside hsource hcanonical] at h
    rw [outsideType?, hsource, ← Except.ok.inj h]
    exact hcanonical
  · rw [fieldType, hsource] at h
    cases h

section

variable {system : TypeSystem} {model : Xml.Node} {store : Store}
  (h : (readModel system model).result = .ok store)

include h

/-- A stored member is written by some class or interface. -/
theorem exists_recordElement_of_mem_members (part : MemberPart υ) {entry : ElementId × υ}
    (hentry : entry ∈ (part.map store).entries) :
    ∃ kind, ∃ node ∈ elementsOf (.entity kind) model,
      (recordElement system (.entity kind) node).Succeeds ∧
        entry ∈ part.written (recordElement system (.entity kind) node).edits := by
  obtain ⟨hsucceeds, rfl⟩ := readModel_eq_ok_iff.1 h
  obtain ⟨kind, node, hnode, hwritten⟩ :=
    (mem_written_members hsucceeds part).1 (part.mem_written_of_mem_applyAll_empty hentry)
  exact ⟨kind, node, hnode, succeeds_of_mem_elementsOf hsucceeds hnode, hwritten⟩

/-- A stored field is built from an attribute. -/
theorem exists_buildsField {entry : ElementId × Field} (hentry : entry ∈ store.fields.entries) :
    ∃ kind, ∃ node ∈ elementsOf (.entity kind) model, ∃ member,
      BuildsField system kind node member entry := by
  obtain ⟨kind, node, hnode, hsucceeds, hwritten⟩ :=
    exists_recordElement_of_mem_members h .fields hentry
  obtain ⟨names, id, hnames, hid, hmembers, hsame, -⟩ := written_recordElement hsucceeds
  rw [hsame, MemberPart.fields, MemberPart.written_fields_recordMembers hmembers] at hwritten
  obtain ⟨member, hmember, name, hname, -, hbuilt⟩ :=
    exists_record_of_mem_written (edits_recordMembers hmembers).1 hwritten
  exact ⟨kind, node, hnode, member, names, id, name, hnames, hid, hmember, hname, hbuilt⟩

/-! ## Types -/

/-- A field that an attribute without a type of the diagram builds has a type from outside, which
is stored under its own name. -/
theorem get?_types_of_buildsField {kind : EntityKind} {node member : Xml.Node}
    (hnode : node ∈ elementsOf (.entity kind) model) {entry : ElementId × Field}
    (hbuilds : BuildsField system kind node member entry)
    (hempty : ¬Filled member "type") :
    store.types.get? entry.2.type = some ⟨entry.2.type⟩ := by
  obtain ⟨names, owner, name, -, -, hmember, -, hwritten⟩ := hbuilds
  obtain ⟨id, type, -, htype, hsame⟩ :=
    MemberPart.written_fields_recordField (succeeds_of_mem_written_recordField hwritten)
  rw [hsame] at hwritten
  obtain rfl := List.mem_singleton.1 hwritten
  have hmem : type ∈ outsideTypes system model := by
    have hnode' : node ∈ elementsOf (.entity .concrete) model ++
        elementsOf (.entity .interface) model := by
      cases kind with
      | concrete => exact List.mem_append_left _ hnode
      | interface => exact List.mem_append_right _ hnode
    have houtside := outsideType?_of_fieldType htype hempty
    exact List.mem_flatMap.2 ⟨node, hnode', List.mem_filterMap.2 ⟨member, hmember, houtside⟩⟩
  rw [types_eq_insertAll h, get?_insertAll_outsideEntries, if_pos hmem]

/-- Every type is stored with a name of the type system in its own spelling. -/
theorem canonical?_of_mem_types {entry : ElementId × DataType}
    (hentry : entry ∈ store.types.entries) :
    system.canonical? entry.2.name = some entry.2.name := by
  obtain ⟨hsucceeds, rfl⟩ := readModel_eq_ok_iff.1 h
  have hwritten := StorePart.types.mem_written_of_mem_applyAll_empty hentry
  rw [written_types hsucceeds, List.mem_append] at hwritten
  rcases hwritten with hdeclared | houtside
  · obtain ⟨node, -, hdeclared⟩ := List.mem_filterMap.1 hdeclared
    obtain ⟨id, -, hdeclared⟩ := Option.bind_eq_some_iff.1 hdeclared
    obtain ⟨canonical, hcanonical, hentry⟩ := Option.bind_eq_some_iff.1 hdeclared
    obtain rfl := Option.some.inj hentry
    exact canonical?_canonical hcanonical
  · obtain ⟨name, hname, rfl⟩ := List.mem_map.1 houtside
    exact canonical?_of_mem_outsideTypes hname

/-! ## Members and owners -/

/-- A member that an entity lists is stored. -/
theorem mem_keys_of_mem_list (part : MemberPart υ) {kind : EntityKind}
    {entry : ElementId × Entity} (hentry : entry ∈ (store.entities kind).entries)
    {id : ElementId} (hid : id ∈ part.list entry.2) : id ∈ (part.map store).keys := by
  obtain ⟨node, hnode, hdeclares⟩ := exists_declares_of_mem_entities h hentry
  rw [hdeclares.list_eq part] at hid
  obtain ⟨member, hmember, rfl⟩ := List.mem_map.1 hid
  obtain ⟨hsucceeds, rfl⟩ := readModel_eq_ok_iff.1 h
  exact part.mem_keys_applyAll_empty.2
    (List.mem_map_of_mem ((mem_written_members hsucceeds part).2 ⟨kind, node, hnode, hmember⟩))

/-- The owner of a stored member is stored. -/
theorem owner_mem_keys (part : MemberPart υ) {entry : ElementId × υ}
    (hentry : entry ∈ (part.map store).entries) :
    part.owner entry.2 ∈ store.classes.keys ∨ part.owner entry.2 ∈ store.interfaces.keys := by
  obtain ⟨kind, node, hnode, hsucceeds, hwritten⟩ :=
    exists_recordElement_of_mem_members h part hentry
  obtain ⟨⟨id, entity⟩, hdeclares, -⟩ := declares_of_recordElement hsucceeds
  obtain ⟨member, -, hentered⟩ := mem_right_of_forall₂ (hdeclares.enters part).flip hwritten
  have hkey : part.owner entry.2 ∈ (store.entities kind).keys := by
    rw [mem_keys_entities h kind, hentered.2]
    exact List.mem_filterMap.2 ⟨node, hnode, hdeclares.id⟩
  cases kind with
  | concrete => exact .inl hkey
  | interface => exact .inr hkey

end

/-- Look-up finds as many values as there are keys to look up. -/
theorem length_filterMap_get? {map : OrderedMap ElementId υ} {ids : List ElementId}
    (h : ∀ id ∈ ids, id ∈ map.keys) : (ids.filterMap map.get?).length = ids.length := by
  rw [List.filterMap_length_eq_length]
  intro id hid
  rw [Option.isSome_iff_ne_none, ne_eq, OrderedMap.get?_eq_none_iff, not_not]
  exact h id hid

/-! ## The whole store -/

/-- The store of a model has whatever it refers to. -/
structure Closed (system : TypeSystem) (model : Xml.Node) (store : Store) : Prop where
  fields : ∀ entity ∈ store.allEntities, ∀ id ∈ entity.2.2.fields, id ∈ store.fields.keys
  operations : ∀ entity ∈ store.allEntities, ∀ id ∈ entity.2.2.operations,
    id ∈ store.operations.keys
  length_fieldsOf : ∀ entity ∈ store.allEntities,
    (store.fieldsOf entity.2.2).length = entity.2.2.fields.length
  length_operationsOf : ∀ entity ∈ store.allEntities,
    (store.operationsOf entity.2.2).length = entity.2.2.operations.length
  fieldOwners : ∀ entry ∈ store.fields.entries,
    entry.2.owner ∈ store.classes.keys ∨ entry.2.owner ∈ store.interfaces.keys
  operationOwners : ∀ entry ∈ store.operations.entries,
    entry.2.owner ∈ store.classes.keys ∨ entry.2.owner ∈ store.interfaces.keys
  types : ∀ entry ∈ store.types.entries,
    entry.2.name ∈ system.typeNames ∧ system.canonical? entry.2.name = some entry.2.name
  /-- A field is built from an attribute, and if that has no type of the diagram, then the type of
  the field is stored under its own name. -/
  fieldTypes : ∀ entry ∈ store.fields.entries,
    (∃ kind, ∃ node ∈ elementsOf (.entity kind) model, ∃ member,
      BuildsField system kind node member entry) ∧
    ∀ kind, ∀ node ∈ elementsOf (.entity kind) model, ∀ member,
      BuildsField system kind node member entry → ¬Filled member "type" →
        store.types.get? entry.2.type = some ⟨entry.2.type⟩

/-- An entity of a store is a class or an interface. -/
theorem mem_entries_of_mem_allEntities {store : Store} {entity : EntityKind × ElementId × Entity}
    (h : entity ∈ store.allEntities) : entity.2 ∈ (store.entities entity.1).entries := by
  rw [Store.allEntities, List.mem_append, List.mem_map, List.mem_map] at h
  rcases h with ⟨entry, hentry, rfl⟩ | ⟨entry, hentry, rfl⟩ <;> exact hentry

/-- The store of a model is closed, also if ids are repeated. -/
theorem closed_of_readModel {system : TypeSystem} {model : Xml.Node} {store : Store}
    (h : (readModel system model).result = .ok store) : Closed system model store := by
  have hfields : ∀ entity ∈ store.allEntities, ∀ id ∈ entity.2.2.fields,
      id ∈ store.fields.keys := fun _ hentity _ hid =>
    mem_keys_of_mem_list h .fields (mem_entries_of_mem_allEntities hentity) hid
  have hoperations : ∀ entity ∈ store.allEntities, ∀ id ∈ entity.2.2.operations,
      id ∈ store.operations.keys := fun _ hentity _ hid =>
    mem_keys_of_mem_list h .operations (mem_entries_of_mem_allEntities hentity) hid
  refine
    { fields := hfields
      operations := hoperations
      length_fieldsOf := fun entity hentity => length_filterMap_get? (hfields entity hentity)
      length_operationsOf := fun entity hentity =>
        length_filterMap_get? (hoperations entity hentity)
      fieldOwners := fun _ hentry => owner_mem_keys h .fields hentry
      operationOwners := fun _ hentry => owner_mem_keys h .operations hentry
      types := ?_
      fieldTypes := ?_ }
  · intro entry hentry
    have hcanonical := canonical?_of_mem_types h hentry
    exact ⟨mem_typeNames_of_canonical? hcanonical, hcanonical⟩
  · intro entry hentry
    exact ⟨exists_buildsField h hentry,
      fun _ _ hnode _ hbuilds hempty => get?_types_of_buildsField h hnode hbuilds hempty⟩

/-- A type, a class and an interface, where the class and the interface have one id and their
attributes have another. -/
def repeatingModel : Xml.Node :=
  (labelModel "String" "Integer").withChild
    ((elementNamed "uml:Interface" "c" "Label").withChild (attributeAt "types.uml#integer"))

/-- The store stays closed where the field of the class is replaced by that of the interface. -/
theorem closed_of_readModel_repeating :
    ∃ store, (readModel .sql repeatingModel).result = .ok store ∧
      Closed .sql repeatingModel store ∧
      ¬(declaredIds repeatingModel).Nodup := by
  have hread : (readModel .sql repeatingModel).result.isOk = true := by decide +kernel
  obtain ⟨store, hstore⟩ := exists_eq_ok_of_isOk hread
  exact ⟨store, hstore, closed_of_readModel hstore, by decide +kernel⟩

end ClassDiagram
