import ClassDiagram.Proofs.Membership
import ClassDiagram.Proofs.Spelling

/-!
# The types of a diagram

Types enter a store in two ways: those that a diagram declares stand under their ids, and
those that the attributes of classes and interfaces bring from outside stand under their
own names.  Declared types come first, so the types of a store are known entry by entry
(`types_eq_insertAll`).

The ids of a diagram and the names of a type system share one map.  Where a type is
declared under an id that is also the name of a type from outside, the second takes its
place (`declared_type_replaced`); under any other id it stays what it was declared to be
(`get?_types_of_declared`).
-/

namespace ClassDiagram

open Script

/-! ## What a document says of types -/

/-- The entry of the type that an element declares, if it can be entered. -/
def declaredType? (system : TypeSystem) (node : Xml.Node) : Option (ElementId × DataType) := do
  let id ← node.text? idAttribute
  let canonical ← system.canonical? ((node.attribute? "name").getD "")
  return (id, ⟨canonical⟩)

/-- The spelling of the type that an attribute brings from outside, if it does. -/
def outsideType? (system : TypeSystem) (node : Xml.Node) : Option String :=
  match TypeSource.ofNode? node with
  | some (.outside name) => system.canonical? name
  | _ => none

/-- The spellings of the types that the attributes of an element bring from outside. -/
def outsideTypesOf (system : TypeSystem) (node : Xml.Node) : List String :=
  (membersOf attributeTag node).filterMap (outsideType? system)

/-- The types from outside in a model, those in classes before those in interfaces. -/
def outsideTypes (system : TypeSystem) (model : Xml.Node) : List String :=
  (elementsOf (.entity .concrete) model ++ elementsOf (.entity .interface) model).flatMap
    (outsideTypesOf system)

/-- The entry of a type under its own name. -/
def outsideEntry (name : String) : ElementId × DataType := (name, ⟨name⟩)

/-! ## What elements write -/

theorem registerType_of_canonical? {system : TypeSystem} {name canonical : String}
    (h : system.canonical? name = some canonical) (id : ElementId) :
    registerType system name id = ⟨[.registerType id canonical], .ok canonical⟩ := by
  have hcanonical : (Script.ofExcept (system.canonicalize name)).outcome = .ok canonical :=
    canonicalize_of_canonical? h
  rw [registerType, bind_of_ok hcanonical]
  rfl

/-- A type from outside is entered under its spelling, which is its own spelling. -/
theorem fieldType_of_outside {system : TypeSystem} {node : Xml.Node} {typeName canonical : String}
    (hsource : TypeSource.ofNode? node = some (.outside typeName))
    (h : system.canonical? typeName = some canonical) (owner : Owner) (name : String) :
    fieldType system owner name node =
      ⟨[.registerType canonical canonical], .ok canonical⟩ := by
  have hcanonical : (Script.ofExcept (system.canonicalize typeName)).outcome = .ok canonical :=
    canonicalize_of_canonical? h
  rw [fieldType, hsource]
  show (Script.ofExcept (system.canonicalize typeName) >>= fun canonical =>
    registerType system canonical canonical) = _
  rw [bind_of_ok hcanonical, registerType_of_canonical? (canonical?_canonical h)]
  rfl

theorem canonical?_of_succeeds_fieldType {system : TypeSystem} {owner : Owner} {name : String}
    {node : Xml.Node} {typeName : String}
    (hsource : TypeSource.ofNode? node = some (.outside typeName))
    (h : (fieldType system owner name node).Succeeds) :
    ∃ canonical, system.canonical? typeName = some canonical := by
  rw [fieldType, hsource] at h
  obtain ⟨canonical, hcanonical, -⟩ := succeeds_bind.1 h
  exact ⟨canonical, canonical?_of_canonicalize hcanonical⟩

/-- An attribute writes the type that it brings from outside. -/
theorem written_types_fieldType {system : TypeSystem} {owner : Owner} {name : String}
    {node : Xml.Node} (h : (fieldType system owner name node).Succeeds) :
    StorePart.types.written (fieldType system owner name node).edits =
      (outsideType? system node).toList.map outsideEntry := by
  cases hsource : TypeSource.ofNode? node with
  | none =>
      rw [fieldType, hsource] at h
      obtain ⟨_, h⟩ := h
      cases h
  | some source =>
      cases source with
      | inside id =>
          rw [fieldType, outsideType?, hsource]
          rfl
      | outside typeName =>
          obtain ⟨canonical, hspelled⟩ := canonical?_of_succeeds_fieldType hsource h
          have houtside : outsideType? system node = some canonical := by
            rw [outsideType?, hsource]
            exact hspelled
          rw [fieldType_of_outside hsource hspelled, houtside]
          rfl

theorem written_types_recordField {system : TypeSystem} {owner : Owner} {name : String}
    {node : Xml.Node} (h : (recordField system owner name node).Succeeds) :
    StorePart.types.written (recordField system owner name node).edits =
      (outsideType? system node).toList.map outsideEntry := by
  obtain ⟨id, type, -, htype, hedits⟩ := edits_recordField h
  rw [hedits, StorePart.written_append, written_types_fieldType ⟨type, htype⟩]
  exact List.append_nil _

/-- Members write the types that attributes bring from outside. -/
theorem written_types_recordMembers {system : TypeSystem} {owner : Owner} {node : Xml.Node}
    (h : (recordMembers system owner node).Succeeds) :
    StorePart.types.written (recordMembers system owner node).edits =
      (outsideTypesOf system node).map outsideEntry := by
  obtain ⟨hfields, -, hedits⟩ := edits_recordMembers h
  rw [hedits, StorePart.written_append, written_recordOperations fun _ _ => rfl, List.append_nil,
    written_flatMap_recordMember hfields, outsideTypesOf, List.filterMap_eq_flatMap_toList,
    List.map_flatMap]
  apply List.flatMap_congr
  intro member hmember
  obtain ⟨hmem, hid⟩ := List.mem_filter.1 hmember
  obtain ⟨name, -, hsucceeds, hrecorded⟩ :=
    edits_recordMember_of_not_isIdMember (hfields member hmem) (by simpa using hid)
  rw [hrecorded, written_types_recordField hsucceeds]

/-- A class or an interface writes the types that its attributes bring from outside. -/
theorem written_types_recordElement {system : TypeSystem} {kind : EntityKind} {node : Xml.Node}
    (h : (recordElement system (.entity kind) node).Succeeds) :
    StorePart.types.written (recordElement system (.entity kind) node).edits =
      (outsideTypesOf system node).map outsideEntry := by
  obtain ⟨names, id, -, -, hmembers, hwritten⟩ := written_recordElement_eq_append h
  rw [hwritten rfl, written_types_recordMembers hmembers]
  exact List.append_nil _

theorem declaredType?_eq_some {system : TypeSystem} {node : Xml.Node} {id : ElementId}
    {canonical : String} (hid : node.text? idAttribute = some id)
    (h : system.canonical? ((node.attribute? "name").getD "") = some canonical) :
    declaredType? system node = some (id, ⟨canonical⟩) := by
  simp only [declaredType?, hid, h]
  rfl

/-- A type writes its own entry. -/
theorem written_types_recordType {system : TypeSystem} {node : Xml.Node}
    (h : (recordElement system .type node).Succeeds) :
    ∃ id canonical, node.text? idAttribute = some id ∧
      system.canonical? ((node.attribute? "name").getD "") = some canonical ∧
      StorePart.types.written (recordElement system .type node).edits = [(id, ⟨canonical⟩)] := by
  obtain ⟨id, canonical, hid, hcanonical, hedits⟩ := edits_recordType h
  refine ⟨id, canonical, hid, canonical?_of_canonicalize hcanonical, ?_⟩
  rw [recordElement, hedits]
  rfl

/-! ## What a model writes -/

section

variable {system : TypeSystem} {model : Xml.Node}
  (h : (recordPackages system (Packages.ofModel model)).Succeeds)

include h

/-- The types of a model write their own entries, in order. -/
theorem written_declaredTypes :
    ((elementsOf .type model).flatMap fun node =>
      StorePart.types.written (recordElement system .type node).edits) =
        (elementsOf .type model).filterMap (declaredType? system) := by
  rw [List.filterMap_eq_flatMap_toList]
  apply List.flatMap_congr
  intro node hnode
  obtain ⟨id, canonical, hid, hcanonical, hwritten⟩ :=
    written_types_recordType (succeeds_of_mem_elementsOf h hnode)
  rw [hwritten, declaredType?_eq_some hid hcanonical, Option.toList_some]

/-- The classes, or interfaces, of a model write what their attributes bring from outside. -/
theorem written_outsideTypes (kind : EntityKind) :
    ((elementsOf (.entity kind) model).flatMap fun node =>
      StorePart.types.written (recordElement system (.entity kind) node).edits) =
        ((elementsOf (.entity kind) model).flatMap (outsideTypesOf system)).map outsideEntry := by
  rw [List.map_flatMap]
  apply List.flatMap_congr
  intro node hnode
  exact written_types_recordElement (succeeds_of_mem_elementsOf h hnode)

/-- A model writes the types that it declares and then those from outside. -/
theorem written_types :
    StorePart.types.written (recordPackages system (Packages.ofModel model)).edits =
      (elementsOf .type model).filterMap (declaredType? system) ++
        (outsideTypes system model).map outsideEntry := by
  have hother : ∀ kind, kind = .enumeration ∨ kind = .association →
      ((elementsOf kind model).flatMap fun node =>
        StorePart.types.written (recordElement system kind node).edits) = [] := by
    intro kind hkind
    have hnot : ¬(kind = .type ∨ ∃ entity, kind = .entity entity) := by
      rcases hkind with rfl | rfl <;> simp
    exact flatMap_written_eq_nil types_writtenBy hnot _
  rw [written_elements h, outsideTypes, List.flatMap_append, List.map_append]
  simp only [ElementKind.stages, List.flatMap_cons, List.flatMap_nil, List.append_nil,
    hother .enumeration (.inl rfl), hother .association (.inr rfl), List.nil_append,
    written_declaredTypes h, written_outsideTypes h]

/-- The ids of the declared types are those of their elements. -/
theorem map_fst_declaredTypes :
    ((elementsOf .type model).filterMap (declaredType? system)).map Prod.fst =
      idsOf (elementsOf .type model) := by
  rw [List.map_filterMap, idsOf]
  apply List.filterMap_congr
  intro node hnode
  obtain ⟨id, canonical, hid, hcanonical, -⟩ :=
    written_types_recordType (succeeds_of_mem_elementsOf h hnode)
  rw [declaredType?_eq_some hid hcanonical, hid, Option.map_some]

end

/-- A type from outside has its own spelling for its name. -/
theorem canonical?_of_outsideType? {system : TypeSystem} {node : Xml.Node} {name : String}
    (h : outsideType? system node = some name) : system.canonical? name = some name := by
  unfold outsideType? at h
  split at h
  · exact canonical?_canonical h
  · cases h

theorem canonical?_of_mem_outsideTypes {system : TypeSystem} {model : Xml.Node} {name : String}
    (h : name ∈ outsideTypes system model) : system.canonical? name = some name := by
  obtain ⟨node, -, hname⟩ := List.mem_flatMap.1 h
  obtain ⟨member, -, houtside⟩ := List.mem_filterMap.1 hname
  exact canonical?_of_outsideType? houtside

/-! ## The types of a store -/

/-- The types of a store are those that its model declares and then those from outside, each
replacing what stood under its name. -/
theorem types_eq_insertAll {system : TypeSystem} {model : Xml.Node} {store : Store}
    (h : (readModel system model).result = .ok store) :
    store.types = ((∅ : OrderedMap ElementId DataType).insertAll
      ((elementsOf .type model).filterMap (declaredType? system))).insertAll
        ((outsideTypes system model).map outsideEntry) := by
  obtain ⟨hsucceeds, rfl⟩ := readModel_eq_ok_iff.1 h
  rw [← OrderedMap.insertAll_append, ← written_types hsucceeds]
  exact StorePart.types.map_applyAll _ _

/-- Under a name stands the type of that name, if it is among the names. -/
theorem lookup_outsideEntries (names : List String) (id : ElementId) :
    (names.map outsideEntry).lookup id = if id ∈ names then some ⟨id⟩ else none := by
  induction names with
  | nil => rfl
  | cons name names ih =>
      rw [List.map_cons, outsideEntry, List.lookup_cons, ih]
      by_cases hname : id = name
      · simp [hname]
      · simp [hname, beq_eq_false_iff_ne.2 hname]

/-- A type from outside stands under its own name, whatever has been declared there; under any
other id stands what has been declared. -/
theorem get?_insertAll_outsideEntries (declared : OrderedMap ElementId DataType)
    (names : List String) (id : ElementId) :
    (declared.insertAll (names.map outsideEntry)).get? id =
      if id ∈ names then some ⟨id⟩ else declared.get? id := by
  rw [OrderedMap.get?_insertAll, ← List.map_reverse, lookup_outsideEntries]
  by_cases hid : id ∈ names
  · simp [hid]
  · simp [hid]

/-- Where the declared types have distinct ids, each stands under its id as it was declared,
unless a type from outside has that id for its name. -/
theorem get?_types_of_declared {system : TypeSystem} {model : Xml.Node} {store : Store}
    (h : (readModel system model).result = .ok store)
    (hids : (idsOf (elementsOf .type model)).Nodup) {node : Xml.Node}
    (hnode : node ∈ elementsOf .type model) :
    ∃ id canonical, node.text? idAttribute = some id ∧
      system.canonical? ((node.attribute? "name").getD "") = some canonical ∧
      store.types.get? id =
        some ⟨if id ∈ outsideTypes system model then id else canonical⟩ := by
  have hsucceeds := (readModel_eq_ok_iff.1 h).1
  obtain ⟨id, canonical, hid, hcanonical, -⟩ :=
    written_types_recordType (succeeds_of_mem_elementsOf hsucceeds hnode)
  have hdeclared : ((∅ : OrderedMap ElementId DataType).insertAll
      ((elementsOf .type model).filterMap (declaredType? system))).get? id =
        some ⟨canonical⟩ := by
    rw [← map_fst_declaredTypes hsucceeds] at hids
    rw [OrderedMap.get?_eq_some_iff, OrderedMap.entries_insertAll_empty hids]
    exact List.mem_filterMap.2 ⟨node, hnode, declaredType?_eq_some hid hcanonical⟩
  refine ⟨id, canonical, hid, hcanonical, ?_⟩
  rw [types_eq_insertAll h, get?_insertAll_outsideEntries, hdeclared]
  by_cases houtside : id ∈ outsideTypes system model
  · simp [houtside]
  · simp [houtside]

/-- An attribute whose type is at a given address. -/
def attributeAt (address : String) : Xml.Node :=
  (((Xml.Node.ofTag attributeTag).withAttribute idAttribute "a").withAttribute
    "name" "label").withChild ((Xml.Node.ofTag "type").withAttribute "href" address)

/-- A type with an id and a name, and a class with an attribute whose type is from outside. -/
def labelModel (id name : String) : Xml.Node :=
  ((Xml.Node.ofTag modelTag).withChild (elementNamed "uml:PrimitiveType" id name)).withChild
    ((elementNamed "uml:Class" "c" "Order").withChild (attributeAt "types.uml#String"))

/-- The declared type stays beside the one from outside. -/
theorem get?_types_of_declared_label :
    ∃ store, (readModel .sql (labelModel "t" "integer")).result = .ok store ∧
      store.types.get? "t" = some ⟨"Integer"⟩ := by
  have hread : (readModel .sql (labelModel "t" "integer")).result.isOk = true := by
    decide +kernel
  obtain ⟨store, hstore⟩ := exists_eq_ok_of_isOk hread
  have hnode : elementNamed "uml:PrimitiveType" "t" "integer" ∈
      elementsOf .type (labelModel "t" "integer") := List.mem_singleton_self _
  obtain ⟨id, canonical, hid, hcanonical, hget⟩ :=
    get?_types_of_declared hstore (by decide +kernel) hnode
  obtain rfl : "t" = id := Option.some.inj hid
  have hspelled : TypeSystem.sql.canonical? "integer" = some "Integer" := by decide +kernel
  obtain rfl : "Integer" = canonical := Option.some.inj (hspelled.symm.trans hcanonical)
  have houtside : "t" ∉ outsideTypes .sql (labelModel "t" "integer") := by decide +kernel
  exact ⟨store, hstore, by rw [hget, if_neg houtside]⟩

/-- A type whose id is the name of a type from outside is replaced by it, although no two ids of
the model are equal. -/
theorem declared_type_replaced :
    ∃ store, (readModel .sql (labelModel "String" "Integer")).result = .ok store ∧
      (declaredIds (labelModel "String" "Integer")).Nodup ∧
      (elementsOf .type (labelModel "String" "Integer")).filterMap (declaredType? .sql) =
        [("String", ⟨"Integer"⟩)] ∧
      store.types.get? "String" = some ⟨"String"⟩ := by
  have hread : (readModel .sql (labelModel "String" "Integer")).result.isOk = true := by
    decide +kernel
  obtain ⟨store, hstore⟩ := exists_eq_ok_of_isOk hread
  have houtside : "String" ∈ outsideTypes .sql (labelModel "String" "Integer") := by
    decide +kernel
  refine ⟨store, hstore, by decide +kernel, by decide +kernel, ?_⟩
  rw [types_eq_insertAll hstore, get?_insertAll_outsideEntries, if_pos houtside]

end ClassDiagram
