import ClassDiagram.Proofs.Case
import ClassDiagram.Proofs.ClassNames
import ClassDiagram.Proofs.Growth
import ClassDiagram.Proofs.Rearrangement
import ClassDiagram.Proofs.Types

/-!
# The normal form of a store

What a document says is put into a normal form as it is read: names of entities are trimmed
and begin with a capital, names of members begin with a small letter, values of enumerations
are in upper case, and nothing is empty.  A store in normal form is `Store.Normal`.

An element that is accepted makes only edits that are `Edit.Normal` (`normal_recordElement`),
and such edits make a store in normal form out of an empty one (`normal_applyAll_empty`).
That the forms stay as they are is a matter of the tables of cases, which map nothing twice.
-/

namespace ClassDiagram

open Script

/-! ## Elements in normal form -/

/-- The name of a field or an operation. -/
structure NormalMemberName (name : String) : Prop where
  ne_empty : name ≠ ""
  lowerFirst : Text.lowerFirst name = name
  notId : isIdName name = false

/-- The names of an entity and of its table are trimmed, and the entity begins with a capital. -/
structure Entity.Normal (entity : Entity) : Prop where
  name_ne_empty : entity.name ≠ ""
  name_trimmed : Text.Trimmed entity.name.toList
  name_upperFirst : Text.upperFirst entity.name = entity.name
  tableName_ne_empty : entity.tableName ≠ ""
  tableName_trimmed : Text.Trimmed entity.tableName.toList

/-- The values of an enumeration are in upper case. -/
structure Enumeration.Normal (enumeration : Enumeration) : Prop where
  name_ne_empty : enumeration.name ≠ ""
  values : ∀ value ∈ enumeration.values, value ≠ "" ∧ Text.upperAll value = value

/-- The parameters of an operation begin with a small letter, as the operation does. -/
structure Operation.Normal (operation : Operation) : Prop where
  name : NormalMemberName operation.name
  parameters : ∀ parameter ∈ operation.parameters,
    parameter.name ≠ "" ∧ Text.lowerFirst parameter.name = parameter.name

/-- All parts of a store are in normal form. -/
structure Store.Normal (store : Store) : Prop where
  keys : ∀ keys ∈ store.keySequences, ∀ key ∈ keys, key ≠ ""
  enumerations : ∀ enumeration ∈ store.enumerations.values, enumeration.Normal
  classes : ∀ entity ∈ store.classes.values, entity.Normal
  interfaces : ∀ entity ∈ store.interfaces.values, entity.Normal
  fields : ∀ field ∈ store.fields.values, NormalMemberName field.name
  operations : ∀ operation ∈ store.operations.values, operation.Normal
  associations : ∀ association ∈ store.associations.values,
    association.source ≠ "" ∧ association.target ≠ ""

/-- The edit enters an element in normal form under an id that is not empty. -/
def Edit.Normal : Edit → Prop
  | registerType id _ => id ≠ ""
  | addEnumeration id enumeration => id ≠ "" ∧ enumeration.Normal
  | addEntity _ id entity => id ≠ "" ∧ entity.Normal
  | addField id field => id ≠ "" ∧ NormalMemberName field.name
  | addOperation id operation => id ≠ "" ∧ operation.Normal
  | addAssociation id association =>
      id ≠ "" ∧ association.source ≠ "" ∧ association.target ≠ ""
  | claimUserClass _ | referToType .. | report _ => True

/-! ## Normal edits make normal stores -/

/-- What holds of every entry that a normal edit writes to a map. -/
def StorePart.WritesOnly {υ : Type} (part : StorePart υ) (condition : υ → Prop) : Prop :=
  ∀ edit : Edit, edit.Normal → ∀ entry ∈ part.writes? edit, entry.1 ≠ "" ∧ condition entry.2

theorem types_writesOnly : StorePart.types.WritesOnly fun _ => True := by
  intro edit hnormal entry hentry
  cases edit with
  | registerType id name =>
      obtain rfl := Option.some.inj hentry
      exact ⟨hnormal, trivial⟩
  | _ => cases hentry

theorem enumerations_writesOnly : StorePart.enumerations.WritesOnly Enumeration.Normal := by
  intro edit hnormal entry hentry
  cases edit with
  | addEnumeration id enumeration => exact Option.some.inj hentry ▸ hnormal
  | _ => cases hentry

theorem entities_writesOnly (kind : EntityKind) :
    (StorePart.entities kind).WritesOnly Entity.Normal := by
  intro edit hnormal entry hentry
  cases edit with
  | addEntity other id entity =>
      obtain ⟨-, hentry⟩ := Option.ite_none_right_eq_some.1 hentry
      exact Option.some.inj hentry ▸ hnormal
  | _ => cases hentry

theorem fields_writesOnly :
    StorePart.fields.WritesOnly fun field => NormalMemberName field.name := by
  intro edit hnormal entry hentry
  cases edit with
  | addField id field =>
      obtain rfl := Option.some.inj hentry
      exact hnormal
  | _ => cases hentry

theorem operations_writesOnly : StorePart.operations.WritesOnly Operation.Normal := by
  intro edit hnormal entry hentry
  cases edit with
  | addOperation id operation => exact Option.some.inj hentry ▸ hnormal
  | _ => cases hentry

theorem associations_writesOnly : StorePart.associations.WritesOnly fun association =>
    association.source ≠ "" ∧ association.target ≠ "" := by
  intro edit hnormal entry hentry
  cases edit with
  | addAssociation id association =>
      obtain rfl := Option.some.inj hentry
      exact hnormal
  | _ => cases hentry

section

variable {υ : Type} {part : StorePart υ} {condition : υ → Prop}
  (hpart : part.WritesOnly condition) {edits : List Edit} (h : ∀ edit ∈ edits, edit.Normal)

include hpart h

/-- An entry of a map that was empty is written by one of the edits. -/
theorem StorePart.WritesOnly.entry {entry : ElementId × υ}
    (hentry : entry ∈ (part.map (Edit.applyAll edits Store.empty)).entries) :
    entry.1 ≠ "" ∧ condition entry.2 := by
  obtain ⟨edit, hedit, hwrites⟩ :=
    List.mem_filterMap.1 (part.mem_written_of_mem_applyAll_empty hentry)
  exact hpart edit (h edit hedit) entry hwrites

theorem StorePart.WritesOnly.key {key : ElementId}
    (hkey : key ∈ (part.map (Edit.applyAll edits Store.empty)).keys) : key ≠ "" := by
  obtain ⟨entry, hentry, rfl⟩ := List.mem_map.1 hkey
  exact (hpart.entry h hentry).1

theorem StorePart.WritesOnly.value {value : υ}
    (hvalue : value ∈ (part.map (Edit.applyAll edits Store.empty)).values) : condition value := by
  obtain ⟨entry, hentry, rfl⟩ := List.mem_map.1 hvalue
  exact (hpart.entry h hentry).2

end

theorem normal_applyAll_empty {edits : List Edit} (h : ∀ edit ∈ edits, edit.Normal) :
    (Edit.applyAll edits Store.empty).Normal where
  keys := by
    intro keys hkeys key
    simp only [Store.keySequences, List.mem_cons, List.not_mem_nil, or_false] at hkeys
    rcases hkeys with rfl | rfl | rfl | rfl | rfl | rfl | rfl
    · exact types_writesOnly.key h
    · exact enumerations_writesOnly.key h
    · exact (entities_writesOnly .concrete).key h
    · exact (entities_writesOnly .interface).key h
    · exact fields_writesOnly.key h
    · exact operations_writesOnly.key h
    · exact associations_writesOnly.key h
  enumerations _ := enumerations_writesOnly.value h
  classes _ := (entities_writesOnly .concrete).value h
  interfaces _ := (entities_writesOnly .interface).value h
  fields _ := fields_writesOnly.value h
  operations _ := operations_writesOnly.value h
  associations _ := associations_writesOnly.value h

/-! ## What elements are read into -/

theorem normal_readEnumeration {node : Xml.Node} {id : ElementId} {enumeration : Enumeration}
    (h : readEnumeration node = .ok (id, enumeration)) : enumeration.Normal := by
  unfold readEnumeration at h
  split at h
  · next name hname =>
      obtain ⟨values, hvalues, h⟩ := bind_eq_ok.1 h
      obtain ⟨_, -, h⟩ := bind_eq_ok.1 h
      obtain ⟨-, rfl⟩ := Prod.mk.inj (Except.ok.inj h)
      refine ⟨Xml.Node.ne_empty_of_text? hname, fun value hvalue => ?_⟩
      obtain ⟨literal, -, hliteral⟩ := exists_mem_of_mapM_eq_ok hvalues hvalue
      unfold literalValue at hliteral
      split at hliteral
      · next text htext =>
          obtain rfl := Except.ok.inj hliteral
          exact ⟨Text.upperAll_eq_empty_iff.not.2 (Xml.Node.ne_empty_of_text? htext),
            Text.upperAll_upperAll text⟩
      · cases hliteral
  · cases h

theorem ne_empty_of_endType {side : AssociationEnd} {id : ElementId} {node : Xml.Node}
    {type : ElementId} (h : endType side id node = .ok type) : type ≠ "" := by
  unfold endType at h
  split at h
  · next htype => exact Except.ok.inj h ▸ Xml.Node.ne_empty_of_text? htype
  · cases h

theorem ends_ne_empty_of_readAssociation {node : Xml.Node} {id : ElementId}
    {association : Association} (h : readAssociation node = .ok (id, association)) :
    association.source ≠ "" ∧ association.target ≠ "" := by
  unfold readAssociation at h
  obtain ⟨_, -, h⟩ := bind_eq_ok.1 h
  split at h
  · obtain ⟨_, hjoin, h⟩ := bind_eq_ok.1 h
    obtain ⟨-, rfl⟩ := Prod.mk.inj (Except.ok.inj h)
    obtain ⟨source, hsource, hjoin⟩ := bind_eq_ok.1 hjoin
    obtain ⟨target, htarget, hjoin⟩ := bind_eq_ok.1 hjoin
    obtain rfl := Except.ok.inj hjoin
    exact ⟨ne_empty_of_endType hsource, ne_empty_of_endType htarget⟩
  · cases h

theorem normalMemberName_lowerFirst {name : String} (hname : name ≠ "")
    (hid : isIdName name = false) : NormalMemberName (Text.lowerFirst name) where
  ne_empty := Text.lowerFirst_eq_empty_iff.not.2 hname
  lowerFirst := Text.lowerFirst_lowerFirst name
  notId := by
    rw [← Bool.not_eq_true] at hid ⊢
    exact fun hlower => hid (isIdName_of_lowerFirst hlower)

theorem normal_parameterName (index : Nat) (node : Xml.Node) :
    parameterName index node ≠ "" ∧
      Text.lowerFirst (parameterName index node) = parameterName index node := by
  unfold parameterName
  split
  · next name hname =>
      exact ⟨Text.lowerFirst_eq_empty_iff.not.2 (Xml.Node.ne_empty_of_text? hname),
        Text.lowerFirst_lowerFirst name⟩
  · have hlist : (s!"arg{index}").toList = 'a' :: 'r' :: 'g' :: (toString index).toList := by
      rw [String.toList_append]
      rfl
    refine ⟨fun hempty => ?_, Text.lowerFirst_eq_self hlist (by decide +kernel)⟩
    rw [hempty] at hlist
    cases hlist

theorem normal_readOperation {owner : Owner} {name : String} {node : Xml.Node} {id : ElementId}
    {operation : Operation} (hname : NormalMemberName (Text.lowerFirst name))
    (h : readOperation owner name node = .ok (id, operation)) : operation.Normal := by
  unfold readOperation at h
  obtain ⟨roles, hroles, h⟩ := bind_eq_ok.1 h
  obtain ⟨_, -, h⟩ := bind_eq_ok.1 h
  obtain ⟨-, rfl⟩ := Prod.mk.inj (Except.ok.inj h)
  refine ⟨hname, fun parameter hparameter => ?_⟩
  obtain ⟨role, hrole, hargument⟩ := List.mem_filterMap.1 hparameter
  obtain ⟨⟨element, index⟩, -, hread⟩ := exists_mem_of_mapM_eq_ok hroles hrole
  obtain ⟨type, -, hread⟩ := bind_eq_ok.1 hread
  obtain rfl := Except.ok.inj hread
  split at hargument
  · cases hargument
  · obtain rfl := Option.some.inj hargument
    exact normal_parameterName index element

/-! ## Names of entities -/

/-- Members do not change the names of an entity. -/
theorem normal_withMembersOf {entity : Entity} (h : entity.Normal) (edits : List Edit) :
    (entity.withMembersOf edits).Normal :=
  ⟨h.name_ne_empty, h.name_trimmed, h.name_upperFirst, h.tableName_ne_empty, h.tableName_trimmed⟩

/-- The table is named as the entity is, or as is said. -/
theorem tableName_named (name : String) (table : Option String) :
    (Entity.named name table).tableName = name ∨
      table = some (Entity.named name table).tableName := by
  cases table with
  | none => exact .inl rfl
  | some table =>
      by_cases hempty : table = ""
      · subst hempty
        exact .inl rfl
      · right
        have hfilter : (some table).filter (· ≠ "") = some table :=
          Option.filter_eq_some_iff.2 ⟨rfl, decide_eq_true hempty⟩
        rw [Entity.named, hfilter, Option.getD_some]

theorem normal_entityNamed {kind : EntityKind} {node : Xml.Node} {names : ClassName}
    (h : readClassName kind node = .ok names) : (entityNamed names node).Normal := by
  have hclean : names.Clean := split_of_readClassName h ▸ ClassName.clean_split _
  have hname : Text.upperFirst names.entity ≠ "" ∧
      Text.Trimmed (Text.upperFirst names.entity).toList :=
    ⟨Text.upperFirst_eq_empty_iff.not.2 (entity_ne_empty_of_readClassName h),
      Text.trimmed_upperFirst hclean.entity_trimmed⟩
  have htable : (entityNamed names node).tableName ≠ "" ∧
      Text.Trimmed (entityNamed names node).tableName.toList := by
    have hsame : (entityNamed names node).tableName =
        (Entity.named (Text.upperFirst names.entity) names.table).tableName := rfl
    rw [hsame]
    rcases tableName_named (Text.upperFirst names.entity) names.table with hentity | hnamed
    · rw [hentity]
      exact hname
    · exact ⟨hclean.table_ne_empty _ hnamed, hclean.table_trimmed _ hnamed⟩
  exact ⟨hname.1, hname.2, Text.upperFirst_upperFirst _, htable.1, htable.2⟩

/-! ## What elements enter -/

section

variable {system : TypeSystem} (hsystem : "" ∉ system.typeNames) {node : Xml.Node}

include hsystem

omit hsystem in
theorem normal_recordType (h : (recordType system node).Succeeds) :
    (recordType system node).MakesOnly Edit.Normal := by
  obtain ⟨id, canonical, hid, -, hedits⟩ := edits_recordType h
  rw [MakesOnly, hedits, List.forall_mem_singleton]
  exact Xml.Node.ne_empty_of_text? hid

/-- A type from outside is entered under a name of the type system. -/
theorem normal_fieldType {owner : Owner} {name : String}
    (h : (fieldType system owner name node).Succeeds) :
    (fieldType system owner name node).MakesOnly Edit.Normal := by
  cases hsource : TypeSource.ofNode? node with
  | none =>
      rw [fieldType, hsource]
      exact makesOnly_ofExcept _
  | some source =>
      cases source with
      | inside id =>
          rw [fieldType, hsource]
          exact makesOnly_bind (makesOnly_edit trivial) fun _ => makesOnly_pure _
      | outside typeName =>
          obtain ⟨canonical, hcanonical⟩ := canonical?_of_succeeds_fieldType hsource h
          rw [fieldType_of_outside hsource hcanonical, MakesOnly, List.forall_mem_singleton]
          exact ne_empty_of_canonical? hsystem hcanonical

theorem normal_recordField {owner : Owner} {name : String} (hname : name ≠ "")
    (hid : isIdName name = false) (h : (recordField system owner name node).Succeeds) :
    (recordField system owner name node).MakesOnly Edit.Normal := by
  obtain ⟨id, type, hnode, htype, hedits⟩ := edits_recordField h
  rw [MakesOnly, hedits, List.forall_mem_append, List.forall_mem_singleton]
  exact ⟨normal_fieldType hsystem ⟨type, htype⟩,
    Xml.Node.ne_empty_of_text? hnode, normalMemberName_lowerFirst hname hid⟩

omit hsystem in
theorem normal_recordOperation {owner : Owner} {name : String} (hname : name ≠ "")
    (hid : isIdName name = false) (h : (recordOperation owner name node).Succeeds) :
    (recordOperation owner name node).MakesOnly Edit.Normal := by
  obtain ⟨id, operation, hnode, hread, -, hedits⟩ := edits_recordOperation h
  rw [MakesOnly, hedits, List.forall_mem_singleton]
  exact ⟨Xml.Node.ne_empty_of_text? hnode,
    normal_readOperation (normalMemberName_lowerFirst hname hid) hread⟩

omit hsystem in
theorem normal_recordMember {sort : MemberSort} {owner : Owner}
    {record : String → Xml.Node → Script Unit}
    (hrecord : ∀ name, name ≠ "" → isIdName name = false → (record name node).Succeeds →
      (record name node).MakesOnly Edit.Normal)
    (h : (recordMember sort owner record node).Succeeds) :
    (recordMember sort owner record node).MakesOnly Edit.Normal := by
  obtain ⟨name, hname, ⟨-, hedits⟩ | ⟨hid, hsucceeds, hedits⟩⟩ := edits_recordMember h
  · rw [MakesOnly, hedits, List.forall_mem_singleton]
    trivial
  · rw [MakesOnly, hedits]
    exact hrecord name (Xml.Node.ne_empty_of_text? hname) hid hsucceeds

omit hsystem in
theorem normal_flatMap_recordMember {sort : MemberSort} {owner : Owner}
    {record : String → Xml.Node → Script Unit}
    (hrecord : ∀ {node name}, name ≠ "" → isIdName name = false → (record name node).Succeeds →
      (record name node).MakesOnly Edit.Normal) {members : List Xml.Node}
    (h : ∀ member ∈ members, (recordMember sort owner record member).Succeeds) :
    ∀ edit ∈ members.flatMap fun member => (recordMember sort owner record member).edits,
      edit.Normal := by
  intro edit hedit
  obtain ⟨member, hmember, hedit⟩ := List.mem_flatMap.1 hedit
  exact normal_recordMember (fun _ => hrecord) (h member hmember) edit hedit

theorem normal_recordMembers {owner : Owner} (h : (recordMembers system owner node).Succeeds) :
    (recordMembers system owner node).MakesOnly Edit.Normal := by
  obtain ⟨hattributes, hoperations, hedits⟩ := edits_recordMembers h
  rw [MakesOnly, hedits, List.forall_mem_append]
  exact ⟨normal_flatMap_recordMember (normal_recordField hsystem) hattributes,
    normal_flatMap_recordMember normal_recordOperation hoperations⟩

theorem normal_recordEntity {kind : EntityKind}
    (h : (recordElement system (.entity kind) node).Succeeds) :
    (recordElement system (.entity kind) node).MakesOnly Edit.Normal := by
  obtain ⟨names, id, hnames, hid, hmembers, hedits⟩ := edits_recordElement_entity h
  have hclaim : (claimPlace kind names id).MakesOnly Edit.Normal := makesOnly_claimPlace trivial
  rw [MakesOnly, hedits, List.forall_mem_append, List.forall_mem_append, entering,
    List.forall_mem_cons, List.forall_mem_singleton]
  exact ⟨⟨hclaim, normal_recordMembers hsystem hmembers⟩, trivial,
    Xml.Node.ne_empty_of_text? hid, normal_withMembersOf (normal_entityNamed hnames) _⟩

/-- What an accepted element enters is in normal form. -/
theorem normal_recordElement {kind : ElementKind} (h : (recordElement system kind node).Succeeds) :
    (recordElement system kind node).MakesOnly Edit.Normal := by
  cases kind with
  | type => exact normal_recordType h
  | enumeration =>
      obtain ⟨id, enumeration, hid, hread, hedits⟩ := edits_recordElement_enumeration h
      rw [MakesOnly, hedits, List.forall_mem_singleton]
      exact ⟨Xml.Node.ne_empty_of_text? hid, normal_readEnumeration hread⟩
  | association =>
      obtain ⟨id, association, hid, hread, hedits⟩ := edits_recordElement_association h
      rw [MakesOnly, hedits, List.forall_mem_cons, List.forall_mem_singleton]
      exact ⟨trivial, Xml.Node.ne_empty_of_text? hid, ends_ne_empty_of_readAssociation hread⟩
  | entity kind => exact normal_recordEntity hsystem h

/-! ## Whole documents -/

theorem normal_of_readModel {model : Xml.Node} {store : Store}
    (h : (readModel system model).result = .ok store) : store.Normal := by
  obtain ⟨hsucceeds, rfl⟩ := readModel_eq_ok_iff_modelEdits.1 h
  refine normal_applyAll_empty fun edit hedit => ?_
  obtain ⟨kind, -, hedit⟩ := List.mem_flatMap.1 hedit
  obtain ⟨node, hnode, hedit⟩ := List.mem_flatMap.1 hedit
  exact normal_recordElement hsystem (hsucceeds kind node hnode) edit hedit

/-- Every document that is accepted gives a store in normal form, if the type system does not have
the empty name. -/
theorem normal_of_readDiagram {document : String} {store : Store}
    (h : (readDiagram system document).result = .ok store) : store.Normal := by
  unfold readDiagram at h
  split at h
  · cases h
  · exact normal_of_readModel hsystem h

end

/-- A class, an attribute and a literal that begin with characters whose other forms are of two
characters. -/
def bakeryDocument : String :=
  "<uml:Model><packagedElement xsi:type=\"uml:Class\" xmi:id=\"c\" name=\" ßtore (shops) \">" ++
  "<ownedAttribute xmi:id=\"a\" name=\"İd\" type=\"e\"/></packagedElement>" ++
  "<packagedElement xsi:type=\"uml:Enumeration\" xmi:id=\"e\" name=\"Size\">" ++
  "<ownedLiteral name=\"groß\"/></packagedElement></uml:Model>"

/-- The bakery is accepted, and its names are in normal form. -/
theorem normal_of_readDiagram_bakery :
    ∃ store, (readDiagram .sql bakeryDocument).result = .ok store ∧ store.Normal ∧
      store.classes.values.map (fun entity => (entity.name, entity.tableName)) =
        [("SStore", "shops")] ∧
      store.fields.values.map (·.name) = ["i̇d"] ∧
      store.enumerations.values.map (·.values) = [["GROSS"]] := by
  have hread : (readDiagram .sql bakeryDocument).result.map (fun store =>
      (store.classes.values.map fun entity => (entity.name, entity.tableName),
        store.fields.values.map (·.name), store.enumerations.values.map (·.values))) =
      .ok ([("SStore", "shops")], ["i̇d"], [["GROSS"]]) := by
    decide +kernel
  obtain ⟨store, hstore, hnames⟩ := map_eq_ok.1 hread
  simp only [Prod.mk.injEq] at hnames
  exact ⟨store, hstore, normal_of_readDiagram (by decide) hstore, hnames⟩

end ClassDiagram
