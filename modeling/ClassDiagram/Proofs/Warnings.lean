import ClassDiagram.Proofs.Types

/-!
# Warnings of unknown types

While a model is read, the type that an attribute names by its id is looked up in the
store as it stands at that moment, and there is a warning if it is not there.  This is
the only thing that is warned of.

`Edit.LooksUp` says which attributes some edits look up, one after the other, and when:
each after a front part of the edits.  It holds of sequences if it holds of their parts.
Types and enumerations have stages of their own before all else, so that every attribute
is looked up in a store that has what the model declares (`exists_declaring_looking`).
The maps only grow, so that what a store lacks in the end it has lacked at every lookup
(`knowsType_applyAll`).  Hence `warnings_of_readModel`.
-/

namespace ClassDiagram

open Script

/-! ## Attributes and what is said of them -/

/-- An attribute, together with the class or interface that it stands in. -/
structure EntityAttribute where
  kind : EntityKind
  entity : Xml.Node
  node : Xml.Node

namespace EntityAttribute

/-- The attributes of a class or an interface, without those named like an id. -/
def inEntity (kind : EntityKind) (entity : Xml.Node) : List EntityAttribute :=
  (membersOf attributeTag entity).map (⟨kind, entity, ·⟩)

/-- The attributes of all classes of a model and then of all interfaces, in document order. -/
def inModel (model : Xml.Node) : List EntityAttribute :=
  (elementsOf (.entity .concrete) model).flatMap (inEntity .concrete) ++
    (elementsOf (.entity .interface) model).flatMap (inEntity .interface)

/-- The type that an attribute names by its id. -/
def type? (member : EntityAttribute) : Option ElementId := member.node.text? "type"

/-- The warning that an attribute refers to a type that is not known. -/
def warning (member : EntityAttribute) (type : ElementId) : Notice :=
  .unknownType ((member.node.text? "name").getD "") member.kind
    (Text.upperFirst (ClassName.split ((member.entity.text? "name").getD "")).entity) type

/-- What is warned of when the type of an attribute is looked up in a store. -/
def lookUp (member : EntityAttribute) (store : Store) : List Notice :=
  match member.type? with
  | some type => if store.knowsType type then [] else [member.warning type]
  | none => []

theorem lookUp_of_type? {member : EntityAttribute} {type : ElementId}
    (h : member.type? = some type) (store : Store) :
    member.lookUp store = if store.knowsType type then [] else [member.warning type] := by
  rw [lookUp, h]

theorem lookUp_of_untyped {member : EntityAttribute} (h : member.type? = none) (store : Store) :
    member.lookUp store = [] := by
  rw [lookUp, h]

end EntityAttribute

/-- The ids of the types and enumerations that a model declares. -/
def declaredTypeIds (model : Xml.Node) : List ElementId :=
  idsOf (elementsOf .type model) ++ idsOf (elementsOf .enumeration model)

/-! ## Which types a store knows -/

theorem knowsType_iff {store : Store} {id : ElementId} :
    store.knowsType id = true ↔ id ∈ store.types.keys ∨ id ∈ store.enumerations.keys := by
  have hcontains : ∀ {υ : Type} (map : OrderedMap ElementId υ),
      map.contains id = true ↔ id ∈ map.keys := by
    intro υ map
    rw [OrderedMap.contains, Option.isSome_iff_ne_none, ne_eq, OrderedMap.get?_eq_none_iff,
      not_not]
  rw [Store.knowsType, Bool.or_eq_true, hcontains, hcontains]

/-- After some edits a store knows the types that it knew and those that they write. -/
theorem knowsType_applyAll_iff {edits : List Edit} {store : Store} {id : ElementId} :
    (Edit.applyAll edits store).knowsType id = true ↔ store.knowsType id = true ∨
      id ∈ (StorePart.types.written edits).map Prod.fst ∨
      id ∈ (StorePart.enumerations.written edits).map Prod.fst := by
  have htypes : (Edit.applyAll edits store).types =
      store.types.insertAll (StorePart.types.written edits) :=
    StorePart.types.map_applyAll edits store
  have henumerations : (Edit.applyAll edits store).enumerations =
      store.enumerations.insertAll (StorePart.enumerations.written edits) :=
    StorePart.enumerations.map_applyAll edits store
  rw [knowsType_iff, knowsType_iff, htypes, henumerations, OrderedMap.mem_keys_insertAll,
    OrderedMap.mem_keys_insertAll, or_or_or_comm]

/-- A type that is known stays known. -/
theorem knowsType_applyAll {store : Store} {id : ElementId} (h : store.knowsType id = true)
    (edits : List Edit) : (Edit.applyAll edits store).knowsType id = true :=
  knowsType_applyAll_iff.2 (.inl h)

/-! ## The warnings of edits -/

namespace Edit

/-- What is warned of when edits are made one after the other. -/
def warnings (edits : List Edit) (store : Store) : List Notice :=
  (noticesOfAll edits store).filter (·.level = .warn)

theorem warnings_append (edits edits' : List Edit) (store : Store) :
    warnings (edits ++ edits') store =
      warnings edits store ++ warnings edits' (applyAll edits store) := by
  rw [warnings, noticesOfAll_append, List.filter_append]
  rfl

/-- The edit causes no warning. -/
def Quiet (edit : Edit) : Prop := ∀ store, warnings [edit] store = []

/-- The edits look up the types of these attributes one after the other, each in the store to
which a front part of them has been made, and warn of nothing else. -/
def LooksUp (edits : List Edit) (attributes : List EntityAttribute) : Prop :=
  ∀ store, ∃ found : List (List Notice), warnings edits store = found.flatten ∧
    List.Forall₂ (fun member notices => ∃ front, front <+: edits ∧
      notices = member.lookUp (applyAll front store)) attributes found

theorem looksUp_singleton {edits : List Edit} {member : EntityAttribute}
    (h : ∀ store, warnings edits store = member.lookUp store) :
    LooksUp edits [member] := by
  intro store
  refine ⟨[member.lookUp store], ?_, .cons ⟨[], List.nil_prefix, rfl⟩ .nil⟩
  rw [h, List.flatten_singleton]

theorem looksUp_append {edits edits' : List Edit} {attributes attributes' : List EntityAttribute}
    (h : LooksUp edits attributes) (h' : LooksUp edits' attributes') :
    LooksUp (edits ++ edits') (attributes ++ attributes') := by
  intro store
  obtain ⟨found, hwarnings, hfound⟩ := h store
  obtain ⟨found', hwarnings', hfound'⟩ := h' (applyAll edits store)
  refine ⟨found ++ found', ?_, List.rel_append ?_ ?_⟩
  · rw [warnings_append, hwarnings, hwarnings', List.flatten_append]
  · refine hfound.imp fun member notices ⟨front, hfront, hnotices⟩ => ?_
    exact ⟨front, hfront.trans (List.prefix_append _ _), hnotices⟩
  · -- What is looked up in the second part is looked up after the whole of the first.
    refine hfound'.imp fun member notices ⟨front, hfront, hnotices⟩ => ?_
    refine ⟨edits ++ front, (List.prefix_append_right_inj edits).2 hfront, ?_⟩
    rw [hnotices, applyAll_append]

theorem looksUp_nil_iff {edits : List Edit} :
    LooksUp edits [] ↔ ∀ store, warnings edits store = [] := by
  constructor
  · intro h store
    obtain ⟨found, hwarnings, hfound⟩ := h store
    cases hfound
    exact hwarnings
  · exact fun h store => ⟨[], h store, .nil⟩

theorem looksUp_nil_of_quiet {edits : List Edit} (h : ∀ edit ∈ edits, edit.Quiet) :
    LooksUp edits [] := by
  induction edits with
  | nil => exact looksUp_nil_iff.2 fun _ => rfl
  | cons edit edits ih =>
      rw [List.forall_mem_cons] at h
      exact looksUp_append (looksUp_nil_iff.2 h.1) (ih h.2)

theorem looksUp_flatMap {α : Type} {edits : α → List Edit}
    {attributes : α → List EntityAttribute} {items : List α}
    (h : ∀ item ∈ items, LooksUp (edits item) (attributes item)) :
    LooksUp (items.flatMap edits) (items.flatMap attributes) := by
  induction items with
  | nil => exact looksUp_nil_of_quiet (by simp)
  | cons item items ih =>
      rw [List.forall_mem_cons] at h
      exact looksUp_append h.1 (ih h.2)

theorem quiet_report {notice : Notice} (h : notice.level ≠ .warn) : (report notice).Quiet := by
  intro store
  simp [warnings, noticesOfAll, notices, h]

theorem quiet_skippedIdMember (sort : MemberSort) (kind : EntityKind) (owner : String) :
    (report (.skippedIdMember sort kind owner)).Quiet :=
  quiet_report (by simp [Notice.level])

theorem quiet_claimUserClass (id : ElementId) : (claimUserClass id).Quiet := by
  intro store
  cases huser : store.userClass.isNone with
  | false => simp [warnings, noticesOfAll, notices, huser]
  | true => simp [warnings, noticesOfAll, notices, huser, Notice.level]

theorem quiet_registerType (id : ElementId) (name : String) : (registerType id name).Quiet :=
  fun _ => rfl

theorem quiet_addOperation (id : ElementId) (operation : Operation) :
    (addOperation id operation).Quiet :=
  fun _ => rfl

end Edit

open Edit

/-! ## Members -/

/-- A type that an attribute names by its id is referred to. -/
theorem fieldType_of_inside {node : Xml.Node} {id : ElementId} (h : node.text? "type" = some id)
    (system : TypeSystem) (owner : Owner) (name : String) :
    fieldType system owner name node =
      ⟨[.referToType name owner.kind owner.name id], .ok id⟩ := by
  rw [fieldType, TypeSource.ofNode?, h]
  rfl

/-- A type that an attribute does not name by an id is not looked up. -/
theorem quiet_fieldType {node : Xml.Node} (h : node.text? "type" = none) (system : TypeSystem)
    (owner : Owner) (name : String) : (fieldType system owner name node).MakesOnly Quiet := by
  rw [fieldType, TypeSource.ofNode?, h]
  cases (node.childTagged? "type" 0).bind (·.text? "href") with
  | none => exact makesOnly_ofExcept _
  | some address =>
      exact makesOnly_bind (makesOnly_ofExcept _) fun _ =>
        makesOnly_registerType (quiet_registerType _)

section

variable {system : TypeSystem} {kind : EntityKind} {entity : Xml.Node} {names : ClassName}
  {id : ElementId} (hnames : readClassName kind entity = .ok names)

include hnames

/-- The type of an attribute is looked up once. -/
theorem looksUp_fieldType {node : Xml.Node} {name : String}
    (hname : node.text? "name" = some name) :
    LooksUp (fieldType system (ownerOf kind names id) name node).edits
      [⟨kind, entity, node⟩] := by
  refine looksUp_singleton fun store => ?_
  cases htype : EntityAttribute.type? ⟨kind, entity, node⟩ with
  | none =>
      rw [EntityAttribute.lookUp_of_untyped htype]
      exact looksUp_nil_iff.1 (looksUp_nil_of_quiet (quiet_fieldType htype _ _ _)) store
  | some type =>
      have hwarning : EntityAttribute.warning ⟨kind, entity, node⟩ type =
          .unknownType name kind (ownerOf kind names id).name type := by
        rw [EntityAttribute.warning, hname, ← split_of_readClassName hnames]
        rfl
      rw [EntityAttribute.lookUp_of_type? htype, fieldType_of_inside htype, hwarning]
      by_cases hknown : store.knowsType type = true
      · simp [warnings, noticesOfAll, notices, hknown]
      · simp [warnings, noticesOfAll, notices, hknown, Notice.level, ownerOf]

/-- A field looks its type up and then enters itself. -/
theorem looksUp_recordField {node : Xml.Node} {name : String}
    (hname : node.text? "name" = some name)
    (h : (recordField system (ownerOf kind names id) name node).Succeeds) :
    LooksUp (recordField system (ownerOf kind names id) name node).edits
      [⟨kind, entity, node⟩] := by
  obtain ⟨fieldId, type, -, -, hedits⟩ := edits_recordField h
  rw [hedits]
  exact looksUp_append (looksUp_fieldType hnames hname) (looksUp_nil_iff.2 fun _ => rfl)

/-- The types of attributes are looked up one after the other, but for those named like an id. -/
theorem looksUp_recordFields {nodes : List Xml.Node}
    (h : ∀ node ∈ nodes, (recordMember .field (ownerOf kind names id)
      (recordField system (ownerOf kind names id)) node).Succeeds) :
    LooksUp (nodes.flatMap fun node => (recordMember .field (ownerOf kind names id)
        (recordField system (ownerOf kind names id)) node).edits)
      ((nodes.filter (!isIdMember ·)).map (⟨kind, entity, ·⟩)) := by
  induction nodes with
  | nil => exact looksUp_nil_of_quiet (by simp)
  | cons node nodes ih =>
      rw [List.forall_mem_cons] at h
      obtain ⟨name, hname, ⟨hid, hedits⟩ | ⟨hid, hsucceeds, hedits⟩⟩ := edits_recordMember h.1
      · -- A member named like an id is passed over, and its report is no warning.
        have hskipped : LooksUp [.report (.skippedIdMember .field (ownerOf kind names id).kind
            (ownerOf kind names id).name)] [] :=
          looksUp_nil_iff.2 (quiet_skippedIdMember _ _ _)
        rw [List.flatMap_cons, hedits, List.filter_cons_of_neg (by simp [isIdMember, hname, hid])]
        exact looksUp_append hskipped (ih h.2)
      · rw [List.flatMap_cons, hedits, List.filter_cons_of_pos (by simp [isIdMember, hname, hid])]
        exact looksUp_append (looksUp_recordField hnames hname hsucceeds) (ih h.2)

end

/-- Operations look nothing up. -/
theorem looksUp_recordOperations (owner : Owner) (nodes : List Xml.Node) :
    LooksUp (nodes.flatMap fun node =>
      (recordMember .operation owner (recordOperation owner) node).edits) [] := by
  refine looksUp_nil_of_quiet fun edit hedit => ?_
  obtain ⟨node, -, hedit⟩ := List.mem_flatMap.1 hedit
  exact makesOnly_recordMember (quiet_skippedIdMember _ _ _)
    (fun _ => makesOnly_recordOperation quiet_addOperation) edit hedit

/-! ## Elements -/

/-- A class or an interface looks up the types of its attributes. -/
theorem looksUp_recordEntity {system : TypeSystem} {kind : EntityKind} {node : Xml.Node}
    (h : (recordElement system (.entity kind) node).Succeeds) :
    LooksUp (recordElement system (.entity kind) node).edits
      (EntityAttribute.inEntity kind node) := by
  obtain ⟨names, id, hnames, -, hmembers, hedits⟩ := edits_recordElement_entity h
  obtain ⟨hfields, -, hmembersEdits⟩ := edits_recordMembers hmembers
  have hclaim : LooksUp (claimPlace kind names id).edits [] :=
    looksUp_nil_of_quiet (makesOnly_claimPlace (quiet_claimUserClass id))
  have hattributes : LooksUp (recordMembers system (ownerOf kind names id) node).edits
      (EntityAttribute.inEntity kind node) := by
    have happend := looksUp_append (looksUp_recordFields hnames hfields)
      (looksUp_recordOperations (ownerOf kind names id) (node.childrenTagged operationTag))
    rw [List.append_nil] at happend
    rw [hmembersEdits]
    exact happend
  have hentering : ∀ entity, LooksUp (entering kind id entity) [] :=
    fun _ => looksUp_nil_iff.2 fun _ => rfl
  have hall := looksUp_append (looksUp_append hclaim hattributes)
    (hentering ((entityNamed names node).withMembersOf
      (recordMembers system (ownerOf kind names id) node).edits))
  rw [List.nil_append, List.append_nil, ← hedits] at hall
  exact hall

theorem looksUp_recordType {system : TypeSystem} {node : Xml.Node} :
    LooksUp (recordElement system .type node).edits [] :=
  looksUp_nil_of_quiet (makesOnly_recordType fun _ _ _ => rfl)

theorem looksUp_recordEnumeration {system : TypeSystem} {node : Xml.Node} :
    LooksUp (recordElement system .enumeration node).edits [] := by
  rw [recordElement, edits_discard]
  exact looksUp_nil_of_quiet (makesOnly_recordEnumeration fun _ _ _ => rfl)

theorem looksUp_recordAssociation {system : TypeSystem} {node : Xml.Node}
    (h : (recordElement system .association node).Succeeds) :
    LooksUp (recordElement system .association node).edits [] := by
  obtain ⟨id, association, -, -, hedits⟩ := edits_recordElement_association h
  rw [hedits]
  exact looksUp_nil_iff.2 fun _ => rfl

/-! ## Whole models -/

/-- An entry that one of the edits writes to a map is among those that all of them write. -/
theorem StorePart.mem_map_fst_written {υ : Type} (part : StorePart υ) {edits : List Edit}
    {edit : Edit} {entry : ElementId × υ} (hedit : edit ∈ edits)
    (h : part.writes? edit = some entry) : entry.1 ∈ (part.written edits).map Prod.fst :=
  List.mem_map_of_mem (List.mem_filterMap.2 ⟨edit, hedit, h⟩)

/-- What is reported of a model before its elements are read is nothing to be warned of. -/
theorem level_of_mem_reports {packages : Packages} {notice : Notice}
    (h : notice ∈ packages.reports) : notice.level ≠ .warn := by
  rcases List.mem_append.1 h with hskipped | hclassified
  · obtain ⟨⟨node, index⟩, -, hnotice⟩ := List.mem_filterMap.1 hskipped
    dsimp only at hnotice
    split at hnotice
    · cases hnotice
    · obtain rfl := Option.some.inj hnotice
      simp [Notice.level]
  · obtain rfl := List.mem_singleton.1 hclassified
    simp [Notice.level]

theorem looksUp_reports (packages : Packages) :
    LooksUp (packages.reports.map Edit.report) [] := by
  refine looksUp_nil_of_quiet fun edit hedit => ?_
  obtain ⟨notice, hnotice, rfl⟩ := List.mem_map.1 hedit
  exact quiet_report (level_of_mem_reports hnotice)

/-- The edits of the stage of a kind. -/
def stageEdits (system : TypeSystem) (model : Xml.Node) (kind : ElementKind) : List Edit :=
  (recordStage system (Packages.ofModel model) kind).edits

section

variable {system : TypeSystem} {model : Xml.Node}
  (h : (recordPackages system (Packages.ofModel model)).Succeeds)

include h

/-- A stage makes the edits of the elements of its kind, in document order, and reports its end. -/
theorem stageEdits_eq (kind : ElementKind) :
    stageEdits system model kind =
      ((elementsOf kind model).flatMap fun node => (recordElement system kind node).edits) ++
        [.report (.stageDone kind)] := by
  rw [stageEdits, edits_recordStage ((edits_recordPackages h).1 kind), Packages.select_eq_filter]
  rfl

/-- A stage looks up what its elements look up. -/
theorem looksUp_stageEdits {kind : ElementKind} {attributes : Xml.Node → List EntityAttribute}
    (helement : ∀ node ∈ elementsOf kind model,
      LooksUp (recordElement system kind node).edits (attributes node)) :
    LooksUp (stageEdits system model kind) ((elementsOf kind model).flatMap attributes) := by
  have hdone : LooksUp [.report (.stageDone kind)] [] := looksUp_nil_iff.2 fun _ => rfl
  have hall := looksUp_append (looksUp_flatMap helement) hdone
  rw [List.append_nil, ← stageEdits_eq h] at hall
  exact hall

/-- A stage whose elements look nothing up looks nothing up. -/
theorem looksUp_stageEdits_nil {kind : ElementKind} (helement : ∀ node ∈ elementsOf kind model,
    LooksUp (recordElement system kind node).edits []) :
    LooksUp (stageEdits system model kind) [] := by
  have hstage := looksUp_stageEdits h helement
  rw [List.flatMap_eq_nil_iff.2 fun _ _ => rfl] at hstage
  exact hstage

theorem looksUp_entityStage (kind : EntityKind) :
    LooksUp (stageEdits system model (.entity kind))
      ((elementsOf (.entity kind) model).flatMap (EntityAttribute.inEntity kind)) :=
  looksUp_stageEdits h fun _ hnode => looksUp_recordEntity (succeeds_of_mem_elementsOf h hnode)

theorem mem_stageEdits {kind : ElementKind} {node : Xml.Node} (hnode : node ∈ elementsOf kind model)
    {edit : Edit} (hedit : edit ∈ (recordElement system kind node).edits) :
    edit ∈ stageEdits system model kind := by
  rw [stageEdits_eq h]
  exact List.mem_append_left _ (List.mem_flatMap.2 ⟨node, hnode, hedit⟩)

/-- A type that the model declares is entered in the stage of types. -/
theorem mem_written_types {id : ElementId} (hid : id ∈ idsOf (elementsOf .type model)) :
    id ∈ (StorePart.types.written (stageEdits system model .type)).map Prod.fst := by
  obtain ⟨node, hnode, hid⟩ := List.mem_filterMap.1 hid
  obtain ⟨id', canonical, hid', -, hedits⟩ :=
    edits_recordType (succeeds_of_mem_elementsOf h hnode)
  obtain rfl : id = id' := Option.some.inj (hid.symm.trans hid')
  have hedit : Edit.registerType id canonical ∈ (recordElement system .type node).edits := by
    rw [recordElement, hedits]
    exact List.mem_singleton_self _
  exact StorePart.types.mem_map_fst_written (mem_stageEdits h hnode hedit) rfl

/-- An enumeration that the model declares is entered in the stage of enumerations. -/
theorem mem_written_enumerations {id : ElementId}
    (hid : id ∈ idsOf (elementsOf .enumeration model)) :
    id ∈ (StorePart.enumerations.written (stageEdits system model .enumeration)).map
      Prod.fst := by
  obtain ⟨node, hnode, hid⟩ := List.mem_filterMap.1 hid
  obtain ⟨id', enumeration, hid', -, hedits⟩ :=
    edits_recordElement_enumeration (succeeds_of_mem_elementsOf h hnode)
  obtain rfl : id = id' := Option.some.inj (hid.symm.trans hid')
  have hedit : addEnumeration id enumeration ∈
      (recordElement system .enumeration node).edits := by
    rw [hedits]
    exact List.mem_singleton_self _
  exact StorePart.enumerations.mem_map_fst_written (mem_stageEdits h hnode hedit) rfl

/-- The edits of a model are its reports and its stages. -/
theorem edits_eq_stages :
    (recordPackages system (Packages.ofModel model)).edits =
      ((Packages.ofModel model).reports.map Edit.report ++
        (stageEdits system model .type ++ stageEdits system model .enumeration)) ++
      (stageEdits system model (.entity .concrete) ++ (stageEdits system model .association ++
        stageEdits system model (.entity .interface))) := by
  rw [(edits_recordPackages h).2]
  simp [ElementKind.stages, stageEdits]

/-- The edits of a model enter the types and enumerations that it declares, and look nothing up;
then they look up the types of all its attributes. -/
theorem exists_declaring_looking : ∃ declaring looking,
    (recordPackages system (Packages.ofModel model)).edits = declaring ++ looking ∧
      LooksUp declaring [] ∧
      (∀ id ∈ declaredTypeIds model, ∀ store, (applyAll declaring store).knowsType id = true) ∧
      LooksUp looking (EntityAttribute.inModel model) := by
  have htypes : LooksUp (stageEdits system model .type) [] :=
    looksUp_stageEdits_nil h fun _ _ => looksUp_recordType
  have henumerations : LooksUp (stageEdits system model .enumeration) [] :=
    looksUp_stageEdits_nil h fun _ _ => looksUp_recordEnumeration
  have hassociations : LooksUp (stageEdits system model .association) [] :=
    looksUp_stageEdits_nil h fun _ hnode =>
      looksUp_recordAssociation (succeeds_of_mem_elementsOf h hnode)
  refine ⟨_, _, edits_eq_stages h,
    looksUp_append (looksUp_reports _) (looksUp_append htypes henumerations), ?_,
    looksUp_append (looksUp_entityStage h .concrete)
      (looksUp_append hassociations (looksUp_entityStage h .interface))⟩
  intro id hid store
  simp only [knowsType_applyAll_iff, StorePart.written_append, List.map_append, List.mem_append]
  rcases List.mem_append.1 hid with hid | hid
  · exact .inr (.inl (.inr (.inl (mem_written_types h hid))))
  · exact .inr (.inr (.inr (.inr (mem_written_enumerations h hid))))

end

/-- The warnings about an attribute of a model that has been read into a store: one at most, none
if its type is declared or it names no type by an id, and one if the store does not have it. -/
structure WarnsRightly (model : Xml.Node) (store : Store) (member : EntityAttribute)
    (notices : List Notice) : Prop where
  /-- There is one warning at most, and it names the attribute and its type. -/
  atMostOne : notices = [] ∨ ∃ type, member.type? = some type ∧ notices = [member.warning type]
  /-- It does not matter where in the document the type is declared. -/
  declared : ∀ type, member.type? = some type → type ∈ declaredTypeIds model → notices = []
  untyped : member.type? = none → notices = []
  unknown : ∀ type, member.type? = some type → type ∉ store.types.keys →
    type ∉ store.enumerations.keys → notices = [member.warning type]

/-- A lookup between the declarations and the end warns rightly. -/
theorem warnsRightly_lookUp {model : Xml.Node} {store final : Store} {member : EntityAttribute}
    (hdeclared : ∀ id ∈ declaredTypeIds model, store.knowsType id = true)
    (hfinal : ∀ id, store.knowsType id = true → final.knowsType id = true) :
    WarnsRightly model final member (member.lookUp store) := by
  cases htype : member.type? with
  | none =>
      rw [EntityAttribute.lookUp_of_untyped htype]
      exact ⟨.inl rfl, fun _ _ _ => rfl, fun _ => rfl, fun type h => by simp [htype] at h⟩
  | some type =>
      have hsame : ∀ other, member.type? = some other → other = type :=
        fun other hother => Option.some.inj (hother.symm.trans htype)
      rw [EntityAttribute.lookUp_of_type? htype]
      by_cases hknown : store.knowsType type = true
      · rw [if_pos hknown]
        refine ⟨.inl rfl, fun _ _ _ => rfl, fun _ => rfl, ?_⟩
        intro other hother htypes henumerations
        obtain rfl := hsame other hother
        rcases knowsType_iff.1 (hfinal other hknown) with hmem | hmem
        · exact absurd hmem htypes
        · exact absurd hmem henumerations
      · rw [if_neg hknown]
        refine ⟨.inr ⟨type, htype, rfl⟩, ?_, fun hnone => by simp [htype] at hnone, ?_⟩
        · intro other hother hmem
          obtain rfl := hsame other hother
          exact absurd (hdeclared other hmem) hknown
        · intro other hother _ _
          rw [hsame other hother]

/-- All warnings of a model that is accepted are about its attributes, in their order, and they are
right: one at most for each, none if its type is declared anywhere in the model, and one if
its type is not in the final store. -/
theorem warnings_of_readModel {system : TypeSystem} {model : Xml.Node} {store : Store}
    (h : (readModel system model).result = .ok store) :
    ∃ found : List (List Notice),
      (readModel system model).notices.filter (·.level = .warn) = found.flatten ∧
      List.Forall₂ (WarnsRightly model store) (EntityAttribute.inModel model) found := by
  obtain ⟨hsucceeds, rfl⟩ := readModel_eq_ok_iff.1 h
  obtain ⟨declaring, looking, hedits, hdeclaring, hdeclared, hlooking⟩ :=
    exists_declaring_looking hsucceeds
  obtain ⟨found, hwarnings, hfound⟩ := hlooking (applyAll declaring Store.empty)
  rw [readModel_eq_run]
  refine ⟨found, ?_, hfound.imp ?_⟩
  · show warnings (recordPackages system (Packages.ofModel model)).edits Store.empty = _
    rw [hedits, warnings_append, looksUp_nil_iff.1 hdeclaring, List.nil_append, hwarnings]
  · -- The lookup stands between the declarations and the final store: a front part of the edits
    -- has been made after them, and the back part is still to come.
    rintro member notices ⟨front, ⟨back, rfl⟩, rfl⟩
    rw [hedits, applyAll_append, applyAll_append]
    exact warnsRightly_lookUp (fun id hid => knowsType_applyAll (hdeclared id hid _) front)
      fun id hid => knowsType_applyAll hid back

/-- An attribute that names its type by an id. -/
def attributeOf (id name type : String) : Xml.Node := memberNamed attributeTag id name type

/-- A class and an interface with attributes, and a type and an enumeration after them. -/
def parcelModel : Xml.Node :=
  let parcel := (((((elementNamed "uml:Class" "c" "Parcel (parcels)").withChild
    (attributeOf "a1" "weight" "t")).withChild (attributeOf "a2" "size" "e")).withChild
    (attributeOf "a3" "sender" "lost")).withChild (attributeOf "a4" "note" "String")).withChild
    (attributeAt "types.uml#string")
  let traced := ((elementNamed "uml:Interface" "i" "Traced").withChild
    (attributeOf "a5" "place" "String")).withChild (attributeOf "a6" "Id" "nowhere")
  ((((Xml.Node.ofTag modelTag).withChild parcel).withChild traced).withChild
    (elementNamed "uml:PrimitiveType" "t" "integer")).withChild
    (elementNamed "uml:Enumeration" "e" "Size")

/-- The type that is nowhere is warned of, and so is the one that comes from outside with a later
attribute; where that has been entered there is no warning any more. -/
theorem warnings_of_readModel_parcel :
    ∃ store, (readModel .sql parcelModel).result = .ok store ∧
      (∃ found : List (List Notice),
        (readModel .sql parcelModel).notices.filter (·.level = .warn) = found.flatten ∧
        List.Forall₂ (WarnsRightly parcelModel store) (EntityAttribute.inModel parcelModel)
          found) ∧
      (readModel .sql parcelModel).notices.filter (·.level = .warn) =
        [.unknownType "sender" .concrete "Parcel" "lost",
          .unknownType "note" .concrete "Parcel" "String"] := by
  have hread : (readModel .sql parcelModel).result.isOk = true := by decide +kernel
  obtain ⟨store, hstore⟩ := exists_eq_ok_of_isOk hread
  exact ⟨store, hstore, warnings_of_readModel hstore, by decide +kernel⟩

end ClassDiagram
