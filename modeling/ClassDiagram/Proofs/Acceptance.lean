import ClassDiagram.Proofs.Builders
import ClassDiagram.Proofs.Grammar
import ClassDiagram.Proofs.Packages
import ClassDiagram.Proofs.Trimming

/-!
# A model is accepted exactly if it is well formed

Each recorder ends well exactly if its element meets the condition of the
grammar for its kind.  `readModel_accepts_iff` puts the five kinds together: a
model is read into a store exactly if it is `WellFormed`.

The conditions on texts come first: what `text?` finds is what `Filled` asks for,
and `canonicalize` knows exactly the names that are `Listed`.  The recorders of
members and entities follow, from the inside out.
-/

namespace ClassDiagram

open Grammar Script

/-! ## Attributes and names -/

/-- A text attribute is found with a value exactly if the attribute holds it and it is not
empty. -/
theorem text?_eq_some_iff {node : Xml.Node} {key value : String} :
    node.text? key = some value ↔ node.attribute? key = some value ∧ value ≠ "" := by
  simp only [Xml.Node.text?, Option.filter_eq_some_iff, decide_eq_true_eq]

theorem filled_iff {node : Xml.Node} {key : String} :
    Filled node key ↔ ∃ value, node.text? key = some value := by
  simp only [Filled, text?_eq_some_iff]

theorem text?_eq_none_iff {node : Xml.Node} {key : String} :
    node.text? key = none ↔ ¬ Filled node key := by
  rw [filled_iff, Option.eq_none_iff_forall_ne_some, not_exists]

/-- Reading an id fails exactly where the attribute for ids is empty or absent. -/
theorem ok_elementId {node : Xml.Node} :
    (∃ id, elementId node = .ok id) ↔ Filled node idAttribute := by
  rw [filled_iff]
  unfold elementId
  split <;> simp_all

/-- A type system finds a spelling for exactly the names that it lists. -/
theorem ok_canonicalize {system : TypeSystem} {name : String} :
    (∃ canonical, system.canonicalize name = .ok canonical) ↔ Listed system name := by
  cases hspelled : system.canonical? name with
  | none =>
      have hunlisted := canonical?_eq_none_iff.1 hspelled
      rw [canonicalize_of_canonical?_eq_none hspelled]
      refine iff_of_false (by simp) ?_
      rintro ⟨listed, hmem, hequal⟩
      exact hunlisted listed hmem hequal
  | some canonical =>
      exact iff_of_true ⟨canonical, canonicalize_of_canonical? hspelled⟩
        ⟨canonical, mem_typeNames_of_canonical? hspelled, asciiFolded_of_canonical? hspelled⟩

/-- The spelling found for a name is listed itself. -/
theorem listed_of_canonicalize {system : TypeSystem} {name canonical : String}
    (h : system.canonicalize name = .ok canonical) : Listed system canonical :=
  ⟨canonical, mem_typeNames_of_canonical? (canonical?_of_canonicalize h), rfl⟩

theorem succeeds_registerType {system : TypeSystem} {name : String} {id : ElementId} :
    (registerType system name id).Succeeds ↔ Listed system name := by
  unfold registerType
  rw [succeeds_bind_left fun _ => succeeds_bind_left (fun _ => succeeds_pure _) |>.2
    (succeeds_edit _), succeeds_ofExcept, ok_canonicalize]

/-! ## Types, enumerations and associations -/

theorem succeeds_recordType {system : TypeSystem} {node : Xml.Node} :
    (recordType system node).Succeeds ↔ IsType system node := by
  unfold recordType IsType
  rw [succeeds_bind_and fun id _ =>
    succeeds_discard.trans succeeds_registerType,
    succeeds_ofExcept, ok_elementId]

theorem ok_literalValue {enumeration : String} {literal : Xml.Node} :
    (∃ value, literalValue enumeration literal = .ok value) ↔ Filled literal "name" := by
  rw [filled_iff]
  unfold literalValue
  split <;> simp_all

theorem ok_readEnumeration {node : Xml.Node} :
    (∃ result, readEnumeration node = .ok result) ↔ IsEnumeration node := by
  unfold readEnumeration IsEnumeration
  cases hname : node.text? "name" with
  | none =>
      have hempty := text?_eq_none_iff.1 hname
      simp [hempty]
  | some name =>
      have hfilled : Filled node "name" := filled_iff.2 ⟨name, hname⟩
      simp only [hfilled, true_and]
      rw [ok_bind_and fun values _ => (ok_bind_left fun id => ok_pure _).trans ok_elementId,
        ok_mapM, and_comm]
      simp only [ok_literalValue]

theorem succeeds_recordEnumeration {node : Xml.Node} :
    (recordEnumeration node).Succeeds ↔ IsEnumeration node := by
  unfold recordEnumeration
  rw [succeeds_bind_left fun _ => succeeds_bind_left (fun _ => succeeds_pure _) |>.2
    (succeeds_edit _), succeeds_ofExcept, ok_readEnumeration]

theorem ok_endType {side : AssociationEnd} {association : ElementId} {node : Xml.Node} :
    (∃ type, endType side association node = .ok type) ↔ Filled node "type" := by
  rw [filled_iff]
  unfold endType
  split <;> simp_all

theorem ok_joinEnds {id : ElementId} {comment : String} {target source : Xml.Node} :
    (∃ association, joinEnds id comment target source = .ok association) ↔
      Filled source "type" ∧ Filled target "type" := by
  unfold joinEnds
  rw [ok_bind_and fun _ _ => (ok_bind_left fun _ => ok_pure _).trans ok_endType, ok_endType]

theorem ok_readAssociation {node : Xml.Node} :
    (∃ result, readAssociation node = .ok result) ↔ IsAssociation node := by
  unfold readAssociation IsAssociation
  rw [← ok_elementId]
  refine ok_bind_and fun id _ => ?_
  rcases node.childrenTagged "ownedEnd" with _ | ⟨target, _ | ⟨source, _ | ⟨third, others⟩⟩⟩
  · simp
  · simp
  · simp only
    rw [ok_bind_left fun _ => ok_pure _, ok_joinEnds]
    simp [and_comm]
  · simp

theorem succeeds_recordAssociation {node : Xml.Node} :
    (recordAssociation node).Succeeds ↔ IsAssociation node := by
  unfold recordAssociation
  rw [succeeds_bind_left, succeeds_ofExcept, ok_readAssociation]
  rintro ⟨id, association⟩
  exact ⟨_, rfl⟩

/-! ## Where a type comes from -/

theorem addressed_iff {node : Xml.Node} {address : String} :
    Addressed node address ↔
      (node.childTagged? "type" 0).bind (·.text? "href") = some address := by
  simp only [Addressed, Option.bind_eq_some_iff, text?_eq_some_iff]

/-- The type of a member is written in the member, or comes from an address, or is missing. -/
theorem typeSource_cases (node : Xml.Node) :
    (Filled node "type" ∧ ∃ id, TypeSource.ofNode? node = some (.inside id)) ∨
    (¬ Filled node "type" ∧ ∃ address, Addressed node address ∧
      TypeSource.ofNode? node = some (.outside (Text.upperFirst (typeNameOfAddress address)))) ∨
    (¬ Filled node "type" ∧ (¬ ∃ address, Addressed node address) ∧
      TypeSource.ofNode? node = none) := by
  simp only [addressed_iff]
  unfold TypeSource.ofNode?
  cases htype : node.text? "type" with
  | some id => exact .inl ⟨filled_iff.2 ⟨id, htype⟩, id, rfl⟩
  | none =>
      have hempty := text?_eq_none_iff.1 htype
      cases haddress : (node.childTagged? "type" 0).bind (·.text? "href") with
      | some address => exact .inr (.inl ⟨hempty, address, rfl, rfl⟩)
      | none => exact .inr (.inr ⟨hempty, by simp, rfl⟩)

/-- A type from outside is given by one address only. -/
theorem exists_addressed_and {node : Xml.Node} {address : String} (h : Addressed node address)
    (condition : String → Prop) :
    (∃ other, Addressed node other ∧ condition other) ↔ condition address := by
  constructor
  · rintro ⟨other, hother, hcondition⟩
    rw [addressed_iff] at h hother
    rw [h] at hother
    exact Option.some.inj hother ▸ hcondition
  · intro hcondition
    exact ⟨address, h, hcondition⟩

/-! ## Fields -/

theorem succeeds_fieldType {system : TypeSystem} {owner : Owner} {name : String}
    {node : Xml.Node} :
    (fieldType system owner name node).Succeeds ↔
      (Filled node "type" ∨ ∃ address, Addressed node address ∧
        Listed system (Text.upperFirst (typeNameOfAddress address))) := by
  unfold fieldType
  rcases typeSource_cases node with
    ⟨hfilled, id, hsource⟩ | ⟨hempty, address, haddress, hsource⟩ | ⟨hempty, hnone, hsource⟩
  · simp only [hsource, hfilled, true_or, iff_true]
    exact (succeeds_bind_left fun _ => succeeds_pure _).2 (succeeds_edit _)
  · simp only [hsource, hempty, false_or]
    rw [exists_addressed_and haddress
      fun address => Listed system (Text.upperFirst (typeNameOfAddress address)),
      succeeds_bind_and fun canonical hcanonical =>
        succeeds_registerType.trans (iff_true_intro (listed_of_canonicalize hcanonical)),
      succeeds_ofExcept, ok_canonicalize, and_true]
  · simp only [hsource, hempty, false_or, succeeds_ofExcept]
    refine iff_of_false (by simp) ?_
    rintro ⟨address, haddress, -⟩
    exact hnone ⟨address, haddress⟩

theorem succeeds_recordField {system : TypeSystem} {owner : Owner} {name : String}
    {node : Xml.Node} :
    (recordField system owner name node).Succeeds ↔ IsAttribute system node := by
  unfold recordField IsAttribute
  rw [succeeds_bind_and fun type _ =>
    (succeeds_bind_left fun id => succeeds_edit _).trans succeeds_ofExcept,
    succeeds_fieldType, ok_elementId, and_comm]

/-! ## Operations -/

theorem ok_parameterRole {owner : Owner} {operation : String} {node : Xml.Node} {index : Nat} :
    (∃ role, parameterRole owner operation node index = .ok role) ↔ IsParameter node := by
  unfold parameterRole parameterType IsParameter
  rw [ok_bind_left fun _ => ok_pure _]
  rcases typeSource_cases node with
    ⟨hfilled, id, hsource⟩ | ⟨hempty, address, haddress, hsource⟩ | ⟨hempty, hnone, hsource⟩
  · simp [hsource, hfilled]
  · simp only [hsource, hempty, false_or]
    exact iff_of_true ⟨_, rfl⟩ ⟨address, haddress⟩
  · simp [hsource, hempty, not_exists.1 hnone]

theorem ok_readOperation {owner : Owner} {name : String} {node : Xml.Node} :
    (∃ result, readOperation owner name node = .ok result) ↔ IsOperation node := by
  unfold readOperation IsOperation
  rw [ok_bind_and fun roles _ => (ok_bind_left fun id => ok_pure _).trans ok_elementId, ok_mapM,
    and_comm]
  simp only [ok_parameterRole]
  -- The position of a parameter has no part in whether it is well formed.
  conv => rhs; rw [← List.zipIdx_map_fst 0 (node.childrenTagged "ownedParameter")]
  simp only [List.forall_mem_map]

theorem succeeds_recordOperation {owner : Owner} {name : String} {node : Xml.Node} :
    (recordOperation owner name node).Succeeds ↔ IsOperation node := by
  unfold recordOperation
  rw [succeeds_bind_left fun _ => succeeds_edit _, succeeds_ofExcept, ok_readOperation]

/-! ## Members -/

theorem succeeds_recordMember {sort : MemberSort} {owner : Owner}
    {record : String → Xml.Node → Script Unit} {condition : Xml.Node → Prop} {node : Xml.Node}
    (h : ∀ name, (record name node).Succeeds ↔ condition node) :
    (recordMember sort owner record node).Succeeds ↔ IsMember condition node := by
  unfold recordMember IsMember Named
  simp only [← text?_eq_some_iff]
  cases node.text? "name" with
  | none => simp
  | some name =>
      cases hid : isIdName name with
      | true => simp [hid]
      | false => simp [hid, h]

theorem succeeds_recordMembers {system : TypeSystem} {owner : Owner} {node : Xml.Node} :
    (recordMembers system owner node).Succeeds ↔
      (∀ member ∈ node.childrenTagged attributeTag, IsMember (IsAttribute system) member) ∧
      ∀ member ∈ node.childrenTagged operationTag, IsMember IsOperation member := by
  unfold recordMembers
  rw [List.forM_eq_forM, succeeds_bind_and fun _ _ => succeeds_forM, succeeds_forM]
  simp only [succeeds_recordMember fun _ => succeeds_recordField,
    succeeds_recordMember fun _ => succeeds_recordOperation]

/-! ## Classes and interfaces -/

theorem split_entity_eq_empty_iff {name : String} :
    (ClassName.split name).entity = "" ↔ ¬ NamesEntity name := by
  have hentity : (ClassName.split name).entity =
      String.ofList (Text.trimChars (name.toList.takeWhile (· ≠ '('))) := rfl
  rw [hentity, String.ofList_eq_empty_iff, Text.trimChars_eq_nil_iff, NamesEntity, not_exists]
  simp only [not_and, Bool.not_eq_false]

theorem ok_readClassName {kind : EntityKind} {node : Xml.Node} :
    (∃ names, readClassName kind node = .ok names) ↔
      ∃ name, Named node name ∧ NamesEntity name := by
  unfold readClassName Named
  simp only [← text?_eq_some_iff]
  cases node.text? "name" with
  | none => simp
  | some name =>
      by_cases h : NamesEntity name
      · simp [split_entity_eq_empty_iff, h]
      · simp [split_entity_eq_empty_iff, h]

theorem succeeds_recordEntity {system : TypeSystem} {kind : EntityKind} {node : Xml.Node} :
    (recordEntity system kind node).Succeeds ↔ IsEntity system node := by
  have hbody : ∀ names id, (do
      claimPlace kind names id
      recordBody system kind names id node).Succeeds ↔
        (∀ member ∈ node.childrenTagged attributeTag, IsMember (IsAttribute system) member) ∧
          ∀ member ∈ node.childrenTagged operationTag, IsMember IsOperation member := by
    intro names id
    rw [succeeds_bind_and fun _ _ => succeeds_recordBody.trans succeeds_recordMembers]
    simp only [succeeds_claimPlace, true_and]
  unfold IsEntity
  rw [recordEntity_eq,
    succeeds_bind_and fun names _ => succeeds_bind_and fun id _ => hbody names id,
    succeeds_ofExcept, succeeds_ofExcept, ok_readClassName, ok_elementId, and_left_comm]

/-! ## Models -/

theorem succeeds_recordElement {system : TypeSystem} {kind : ElementKind} {node : Xml.Node} :
    (recordElement system kind node).Succeeds ↔ IsElement system node kind := by
  cases kind with
  | type => exact succeeds_recordType
  | enumeration => exact succeeds_discard.trans succeeds_recordEnumeration
  | entity kind => exact succeeds_discard.trans succeeds_recordEntity
  | association => exact succeeds_discard.trans succeeds_recordAssociation

theorem succeeds_recordStage {system : TypeSystem} {packages : Packages} {kind : ElementKind} :
    (recordStage system packages kind).Succeeds ↔
      ∀ node ∈ packages.select kind, IsElement system node kind := by
  unfold recordStage
  rw [List.forM_eq_forM, succeeds_bind_left fun _ => succeeds_report _, succeeds_forM]
  simp only [succeeds_recordElement]

theorem succeeds_recordPackages {system : TypeSystem} {packages : Packages} :
    (recordPackages system packages).Succeeds ↔
      ∀ kind, ∀ node ∈ packages.select kind, IsElement system node kind := by
  unfold recordPackages Packages.reportSkipped
  rw [List.forM_eq_forM, List.forM_eq_forM, succeeds_bind_and fun _ _ =>
    succeeds_bind_and fun _ _ => succeeds_forM, succeeds_forM]
  simp only [succeeds_report, succeeds_recordStage, ElementKind.mem_stages, implies_true,
    forall_const, true_and]

/-- A model that is read gives the store that all its edits make of the empty one. -/
theorem readModel_eq_ok_iff {system : TypeSystem} {model : Xml.Node} {store : Store} :
    (readModel system model).result = .ok store ↔
      (recordPackages system (Packages.ofModel model)).Succeeds ∧
        Edit.applyAll (recordPackages system (Packages.ofModel model)).edits Store.empty =
          store := by
  rw [readModel_eq_run]
  exact finished_run_eq_ok_iff

/-- A model is read into a store exactly if all its elements are well formed: the type system
and the model decide, and nothing that was read before an element has a part in it. -/
theorem readModel_accepts_iff (system : TypeSystem) (model : Xml.Node) :
    (∃ store, (readModel system model).result = .ok store) ↔ WellFormed system model := by
  simp only [readModel_eq_ok_iff, exists_and_left, exists_eq', and_true,
    succeeds_recordPackages, Packages.mem_select]
  constructor
  · intro h node hmem kind hkind
    exact h kind node ⟨hmem, hkind⟩
  · intro h kind node ⟨hmem, hkind⟩
    exact h node hmem kind hkind

end ClassDiagram
