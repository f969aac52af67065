import ClassDiagram.Proofs.Dependence
import ClassDiagram.Proofs.Types

/-!
# Merging two models

A model that `Merges` two others has the elements of the first and then those of the
second.  Its stages mix the two: all classes of both are read before any interface of
either.  No map notices, for every stage of the merged model enters what this stage
enters for the first model and then for the second.

Maps that the elements of one kind write to are merged by writing the entries of the
second map into the first (`map_of_merges`).  Types, fields and operations are written by
several kinds, so that their order is mixed.  Where all ids are distinct and none is the
name of a type, look-up finds what it finds in one of the two maps (`get?_of_merges`,
`get?_types_of_merges`).
-/

namespace ClassDiagram

variable {υ : Type}

/-- The model has the elements of the first model and then those of the second. -/
def Merges (first second model : Xml.Node) : Prop :=
  model.childrenTagged Packages.elementTag =
    first.childrenTagged Packages.elementTag ++ second.childrenTagged Packages.elementTag

section

variable {first second model : Xml.Node} (hmerges : Merges first second model)

include hmerges

/-! ## Elements and their ids -/

theorem elementsOf_of_merges (kind : ElementKind) :
    elementsOf kind model = elementsOf kind first ++ elementsOf kind second := by
  rw [elementsOf, hmerges, List.filter_append]
  rfl

theorem declaredIds_of_merges :
    declaredIds model = declaredIds first ++ declaredIds second := by
  rw [declaredIds, recognisedElements, hmerges, List.filter_append, List.flatMap_append]
  rfl

/-- The types from outside are those of the two models. -/
theorem mem_outsideTypes_of_merges {system : TypeSystem} {name : String} :
    name ∈ outsideTypes system model ↔
      name ∈ outsideTypes system first ∨ name ∈ outsideTypes system second := by
  simp only [outsideTypes, elementsOf_of_merges hmerges, List.flatMap_append, List.mem_append]
  rw [or_or_or_comm]

/-! ## Maps that one kind of elements writes to -/

section

variable {system : TypeSystem} {store store' merged : Store}
  (h : (readModel system first).result = .ok store)
  (h' : (readModel system second).result = .ok store')
  (hmerged : (readModel system model).result = .ok merged)

include h h' hmerged

/-- The entries of the second map are written into the first. -/
theorem map_of_merges {part : StorePart υ} {kind : ElementKind}
    (hpart : part.WrittenBy (· = kind)) :
    part.map merged = (part.map store).insertAll (part.map store').entries := by
  rw [map_of_kind hpart h, map_of_kind hpart h', map_of_kind hpart hmerged,
    elementsOf_of_merges hmerges, List.flatMap_append, OrderedMap.insertAll_append,
    OrderedMap.insertAll_entries_insertAll]

/-- The user class is that of the first model, or else that of the second. -/
theorem userClass_of_merges : merged.userClass = store.userClass.or store'.userClass := by
  rw [userClass_of_readModel h, userClass_of_readModel h', userClass_of_readModel hmerged,
    elementsOf_of_merges hmerges, List.findSome?_append]

/-! ## Look-up among members and types -/

/-- Members are found as in one of the two models. -/
theorem get?_of_merges (hids : (declaredIds model).Nodup) (part : MemberPart υ)
    (htag : ∀ node, (idsOf (membersOf part.tag node)).Sublist (declaredIdsOf node))
    (id : ElementId) :
    (part.map merged).get? id = ((part.map store).get? id).or ((part.map store').get? id) := by
  have hsplit := declaredIds_of_merges hmerges ▸ hids
  apply OrderedMap.get?_eq_or_of_mem_iff
  intro entry
  rw [entries_members h (List.Nodup.of_append_left hsplit) part htag,
    entries_members h' (List.Nodup.of_append_right hsplit) part htag,
    entries_members hmerged hids part htag]
  simp only [elementsOf_of_merges hmerges, List.flatMap_append, List.mem_append]
  rw [or_or_or_comm]

end

end

/-- Where the ids of a model are distinct and none is the name of a type, the types are those that
the model declares and those from outside. -/
theorem mem_types_iff {system : TypeSystem} {model : Xml.Node} {store : Store}
    (h : (readModel system model).result = .ok store) (hids : (declaredIds model).Nodup)
    (hfree : ∀ id ∈ declaredIds model, id ∉ system.typeNames) {id : ElementId} {type : DataType} :
    (id, type) ∈ store.types.entries ↔
      (id, type) ∈ (elementsOf .type model).filterMap (declaredType? system) ∨
        id ∈ outsideTypes system model ∧ type = ⟨id⟩ := by
  let declared := (elementsOf .type model).filterMap (declaredType? system)
  have hkeys : declared.map Prod.fst = idsOf (elementsOf .type model) :=
    map_fst_declaredTypes (readModel_eq_ok_iff.1 h).1
  have hsublist := idsOf_elementsOf_sublist .type model
  have hnodup : (declared.map Prod.fst).Nodup := hkeys ▸ hids.sublist hsublist
  rw [← OrderedMap.get?_eq_some_iff, types_eq_insertAll h, get?_insertAll_outsideEntries]
  by_cases houtside : id ∈ outsideTypes system model
  · have hnot : (id, type) ∉ declared := by
      intro hmem
      have hid : id ∈ idsOf (elementsOf .type model) := hkeys ▸ List.mem_map_of_mem hmem
      exact hfree id (hsublist.subset hid)
        (mem_typeNames_of_canonical? (canonical?_of_mem_outsideTypes houtside))
    rw [if_pos houtside, or_iff_right hnot, and_iff_right houtside, Option.some_inj, eq_comm]
  · rw [if_neg houtside, or_iff_left fun htype => houtside htype.1,
      OrderedMap.get?_eq_some_iff, OrderedMap.entries_insertAll_empty hnodup]

/-- Types are found as in one of the two models. -/
theorem get?_types_of_merges {first second model : Xml.Node} (hmerges : Merges first second model)
    {system : TypeSystem} {store store' merged : Store}
    (h : (readModel system first).result = .ok store)
    (h' : (readModel system second).result = .ok store')
    (hmerged : (readModel system model).result = .ok merged) (hids : (declaredIds model).Nodup)
    (hfree : ∀ id ∈ declaredIds model, id ∉ system.typeNames) (id : ElementId) :
    merged.types.get? id = (store.types.get? id).or (store'.types.get? id) := by
  have hsplit := declaredIds_of_merges hmerges
  have hnodup := hsplit ▸ hids
  have hfirst : ∀ id ∈ declaredIds first, id ∉ system.typeNames := fun id hid =>
    hfree id (hsplit ▸ List.mem_append_left _ hid)
  have hsecond : ∀ id ∈ declaredIds second, id ∉ system.typeNames := fun id hid =>
    hfree id (hsplit ▸ List.mem_append_right _ hid)
  apply OrderedMap.get?_eq_or_of_mem_iff
  rintro ⟨id, type⟩
  rw [mem_types_iff h (List.Nodup.of_append_left hnodup) hfirst,
    mem_types_iff h' (List.Nodup.of_append_right hnodup) hsecond,
    mem_types_iff hmerged hids hfree, elementsOf_of_merges hmerges, List.filterMap_append,
    List.mem_append, mem_outsideTypes_of_merges hmerges, or_and_right, or_or_or_comm]

/-! ## The store of a merged model -/

/-- A merged model is accepted exactly if both models are.  Its enumerations, classes, interfaces
and associations are those of the first with the entries of the second written into them, and its
user class is that of the first or else that of the second.  Where all ids are distinct and none is
the name of a type, look-up among its types and members finds what the first has or else what the
second has. -/
theorem readModel_of_merges {system : TypeSystem} {first second model : Xml.Node}
    (hmerges : Merges first second model) :
    ((∃ merged, (readModel system model).result = .ok merged) ↔
      (∃ store, (readModel system first).result = .ok store) ∧
        ∃ store', (readModel system second).result = .ok store') ∧
    ∀ store store' merged, (readModel system first).result = .ok store →
      (readModel system second).result = .ok store' →
      (readModel system model).result = .ok merged →
        merged.enumerations = store.enumerations.insertAll store'.enumerations.entries ∧
        merged.classes = store.classes.insertAll store'.classes.entries ∧
        merged.interfaces = store.interfaces.insertAll store'.interfaces.entries ∧
        merged.associations = store.associations.insertAll store'.associations.entries ∧
        merged.userClass = store.userClass.or store'.userClass ∧
        ((declaredIds first ++ declaredIds second).Nodup →
          (∀ id ∈ declaredIds first ++ declaredIds second, id ∉ system.typeNames) → ∀ id,
            merged.types.get? id = (store.types.get? id).or (store'.types.get? id) ∧
            merged.fields.get? id = (store.fields.get? id).or (store'.fields.get? id) ∧
            merged.operations.get? id =
              (store.operations.get? id).or (store'.operations.get? id)) := by
  constructor
  · simp only [exists_readModel_eq_ok_iff, elementsOf_of_merges hmerges, List.forall_mem_append]
    exact forall_and
  · intro store store' merged h h' hmerged
    refine ⟨map_of_merges hmerges h h' hmerged enumerations_writtenBy,
      map_of_merges hmerges h h' hmerged (entities_writtenBy .concrete),
      map_of_merges hmerges h h' hmerged (entities_writtenBy .interface),
      map_of_merges hmerges h h' hmerged associations_writtenBy,
      userClass_of_merges hmerges h h' hmerged, ?_⟩
    rw [← declaredIds_of_merges hmerges]
    intro hids hfree id
    exact ⟨get?_types_of_merges hmerges h h' hmerged hids hfree id,
      get?_of_merges hmerges h h' hmerged hids .fields attributeIds_sublist id,
      get?_of_merges hmerges h h' hmerged hids .operations operationIds_sublist id⟩

/-- A type, and a class that is the user class and has an attribute of a type from outside. -/
def customersModel : Xml.Node :=
  ((Xml.Node.ofTag modelTag).withChild (elementNamed "uml:PrimitiveType" "t" "integer")).withChild
    ((elementNamed "uml:Class" "u" "User (customers)").withChild
      (attributeAt "types.uml#String"))

/-- The shop together with its customers. -/
def staffedModel : Xml.Node :=
  { shopModel with children := shopModel.children ++ customersModel.children }

/-- The shop gets the user class and the types of its customers, and keeps its own members. -/
theorem readModel_of_merges_customers :
    Merges shopModel customersModel staffedModel ∧
      (declaredIds shopModel ++ declaredIds customersModel).Nodup ∧
      (∀ id ∈ declaredIds shopModel ++ declaredIds customersModel,
        id ∉ TypeSystem.sql.typeNames) ∧
      ∃ store store' merged, (readModel .sql shopModel).result = .ok store ∧
        (readModel .sql customersModel).result = .ok store' ∧
        (readModel .sql staffedModel).result = .ok merged ∧
        merged.classes = store.classes.insertAll store'.classes.entries ∧
        merged.userClass = some "u" ∧ merged.types.get? "String" = some ⟨"String"⟩ ∧
        merged.fields.get? "p" = store.fields.get? "p" := by
  have hmerges : Merges shopModel customersModel staffedModel := rfl
  have hids : (declaredIds shopModel ++ declaredIds customersModel).Nodup := by decide +kernel
  have hfree : ∀ id ∈ declaredIds shopModel ++ declaredIds customersModel,
      id ∉ TypeSystem.sql.typeNames := by decide +kernel
  have hshop : (readModel .sql shopModel).result.map (fun store => (store.userClass,
      store.types.get? "String", (store.fields.get? "p").isSome)) = .ok (none, none, true) := by
    decide +kernel
  have hcustomers : (readModel .sql customersModel).result.map (fun store => (store.userClass,
      store.types.get? "String")) = .ok (some "u", some ⟨"String"⟩) := by
    decide +kernel
  obtain ⟨store, hstore, hshop⟩ := map_eq_ok.1 hshop
  obtain ⟨store', hstore', hcustomers⟩ := map_eq_ok.1 hcustomers
  obtain ⟨haccepts, hmerged⟩ := @readModel_of_merges .sql _ _ _ hmerges
  obtain ⟨merged, hread⟩ := haccepts.2 ⟨⟨store, hstore⟩, ⟨store', hstore'⟩⟩
  obtain ⟨-, hclasses, -, -, huser, hfound⟩ := hmerged store store' merged hstore hstore' hread
  simp only [Prod.mk.injEq] at hshop hcustomers
  obtain ⟨hnone, hother, hprice⟩ := hshop
  obtain ⟨hclaimed, hstring⟩ := hcustomers
  refine ⟨hmerges, hids, hfree, store, store', merged, hstore, hstore', hread, hclasses, ?_, ?_, ?_⟩
  · rw [huser, hnone, hclaimed]
    rfl
  · rw [(hfound hids hfree "String").1, hother, hstring]
    rfl
  · rw [(hfound hids hfree "p").2.1, Option.or_of_isSome hprice]

end ClassDiagram
