import ClassDiagram.Proofs.Types
import ClassDiagram.Proofs.UserClass

/-!
# What is left where reading stops

The members of an element are read one after the other, and the first that is refused
stops the reading.  What was entered before stays: the store and the entity are left as
the members before it leave them (`StopsAt`).  There is one way in which the member that
is refused shows, too.  The type of an attribute is entered before its id is looked at, so
an attribute with a type from outside but without an id leaves that type behind
(`LeavesType`).  Its name is looked at earlier still, so an attribute without a name
leaves nothing.

An entity that is refused is not entered itself.  It leaves what its members leave, and if
it is the user class it has said so by then (`EntityStops`).
-/

namespace ClassDiagram

open Grammar Script

/-! ## Members in order -/

/-- The members of an element in the order in which they are read. -/
def membersInOrder (node : Xml.Node) : List Xml.Node :=
  node.childrenTagged attributeTag ++ node.childrenTagged operationTag

/-- The element with other children. -/
def withChildren (node : Xml.Node) (children : List Xml.Node) : Xml.Node :=
  { node with children := children }

/-- Enters a member, which is an attribute or else an operation. -/
def recordMemberOf (system : TypeSystem) (owner : Owner) (member : Xml.Node) : Script Unit :=
  if member.tag = attributeTag then
    recordMember .field owner (recordField system owner) member
  else recordMember .operation owner (recordOperation owner) member

theorem tag_of_mem_childrenTagged {node member : Xml.Node} {tag : String}
    (h : member ∈ node.childrenTagged tag) : member.tag = tag :=
  of_decide_eq_true (List.mem_filter.1 h).2

theorem filter_tag_eq_self {tag : String} {nodes : List Xml.Node}
    (h : ∀ node ∈ nodes, node.tag = tag) : nodes.filter (·.tag = tag) = nodes :=
  List.filter_eq_self.2 fun node hnode => decide_eq_true (h node hnode)

theorem filter_tag_eq_nil {tag other : String} {nodes : List Xml.Node}
    (h : ∀ node ∈ nodes, node.tag = other) (hne : other ≠ tag) :
    nodes.filter (·.tag = tag) = [] :=
  List.filter_eq_nil_iff.2 fun node hnode => by simp [h node hnode, hne]

/-- An element that has some of the members for its children has these members. -/
theorem membersInOrder_withChildren {node : Xml.Node} {members : List Xml.Node}
    (h : members.Sublist (membersInOrder node)) :
    membersInOrder (withChildren node members) = members := by
  obtain ⟨attributes, operations, rfl, hattributes, hoperations⟩ := List.sublist_append_iff.1 h
  have hattribute : ∀ member ∈ attributes, member.tag = attributeTag :=
    fun member hmember => tag_of_mem_childrenTagged (hattributes.subset hmember)
  have hoperation : ∀ member ∈ operations, member.tag = operationTag :=
    fun member hmember => tag_of_mem_childrenTagged (hoperations.subset hmember)
  unfold membersInOrder Xml.Node.childrenTagged withChildren
  rw [List.filter_append, List.filter_append, filter_tag_eq_self hattribute,
    filter_tag_eq_nil hoperation (by decide), filter_tag_eq_nil hattribute (by decide),
    filter_tag_eq_self hoperation, List.append_nil, List.nil_append]

/-- The members of an element are entered as one list. -/
theorem recordMembers_eq_forM (system : TypeSystem) (owner : Owner) (node : Xml.Node) :
    recordMembers system owner node = forM (membersInOrder node) (recordMemberOf system owner) := by
  have hattributes : ∀ member ∈ node.childrenTagged attributeTag,
      recordMember .field owner (recordField system owner) member =
        recordMemberOf system owner member := by
    intro member hmember
    rw [recordMemberOf, if_pos (tag_of_mem_childrenTagged hmember)]
  have hoperations : ∀ member ∈ node.childrenTagged operationTag,
      recordMember .operation owner (recordOperation owner) member =
        recordMemberOf system owner member := by
    intro member hmember
    rw [recordMemberOf, tag_of_mem_childrenTagged hmember, if_neg (by decide)]
  rw [recordMembers, List.forM_eq_forM, membersInOrder, List.forM_append,
    forM_eq_of_step_eq hattributes, forM_eq_of_step_eq hoperations]

/-- An element with some of the members enters these. -/
theorem recordMembers_withChildren {node : Xml.Node} {members : List Xml.Node}
    (h : members.Sublist (membersInOrder node)) (system : TypeSystem) (owner : Owner) :
    recordMembers system owner (withChildren node members) =
      forM members (recordMemberOf system owner) := by
  rw [recordMembers_eq_forM, membersInOrder_withChildren h]

/-! ## A member that is refused -/

/-- The attribute has a name, and a type from outside that has the spelling, but no id. -/
structure LeavesType (system : TypeSystem) (member : Xml.Node) (canonical : String) : Prop where
  tag : member.tag = attributeTag
  name : Filled member "name"
  outside : ¬Filled member "type"
  spelled : ∃ address, Addressed member address ∧
    system.canonical? (Text.upperFirst (typeNameOfAddress address)) = some canonical
  id : ¬Filled member idAttribute

/-- An attribute has one address, and so it leaves one type. -/
theorem LeavesType.unique {system : TypeSystem} {member : Xml.Node} {canonical other : String}
    (h : LeavesType system member canonical) (hother : LeavesType system member other) :
    canonical = other := by
  obtain ⟨address, haddress, hcanonical⟩ := h.spelled
  have hspelled := (exists_addressed_and haddress fun address =>
    system.canonical? (Text.upperFirst (typeNameOfAddress address)) = some other).1 hother.spelled
  exact Option.some.inj (hcanonical.symm.trans hspelled)

/-- The edits that a member has made by the time it is refused. -/
inductive Abandoned (system : TypeSystem) (member : Xml.Node) : List Edit → Prop where
  | nothing : (∀ canonical, ¬LeavesType system member canonical) → Abandoned system member []
  /-- To refer to a type changes nothing. -/
  | reference (field : String) (kind : EntityKind) (owner : String) (type : ElementId) :
      (∀ canonical, ¬LeavesType system member canonical) →
        Abandoned system member [.referToType field kind owner type]
  | type (canonical : String) : LeavesType system member canonical →
      Abandoned system member [.registerType canonical canonical]

section

variable {system : TypeSystem} {owner : Owner} {member : Xml.Node} {name : String} {fault : Fault}

/-- A field that is refused has at most entered its type; if it has one, then it has no id. -/
theorem edits_recordField_of_error
    (h : (recordField system owner name member).outcome = .error fault) :
    (recordField system owner name member).edits = (fieldType system owner name member).edits ∧
      ((fieldType system owner name member).Succeeds → ¬Filled member idAttribute) := by
  unfold recordField at h ⊢
  cases htype : (fieldType system owner name member).outcome with
  | error other =>
      refine ⟨by rw [bind_of_error htype], ?_⟩
      rintro ⟨type, hsucceeds⟩
      cases htype.symm.trans hsucceeds
  | ok type =>
      rw [bind_of_ok htype] at h ⊢
      obtain ⟨hid, hedits⟩ := of_bind_eq_error (fun _ => succeeds_edit _) h
      refine ⟨by rw [hedits]; exact List.append_nil _, fun _ hfilled => ?_⟩
      obtain ⟨id, hsome⟩ := ok_elementId.2 hfilled
      cases hsome.symm.trans hid

theorem abandoned_recordField (htag : member.tag = attributeTag) (hname : Filled member "name")
    (h : (recordField system owner name member).outcome = .error fault) :
    Abandoned system member (recordField system owner name member).edits := by
  obtain ⟨hedits, hid⟩ := edits_recordField_of_error h
  rw [hedits]
  rcases typeSource_cases member with
    ⟨hfilled, id, hsource⟩ | ⟨hempty, address, haddress, hsource⟩ | ⟨-, hnone, hsource⟩
  · rw [fieldType, hsource]
    exact .reference name owner.kind owner.name id fun _ hleaves => hleaves.outside hfilled
  · cases hspelled : system.canonical? (Text.upperFirst (typeNameOfAddress address)) with
    | some canonical =>
        have htype := fieldType_of_outside hsource hspelled owner name
        rw [htype] at hid ⊢
        exact .type canonical
          ⟨htag, hname, hempty, ⟨address, haddress, hspelled⟩, hid ⟨canonical, rfl⟩⟩
    | none =>
        have hrefused : (Script.ofExcept (system.canonicalize
            (Text.upperFirst (typeNameOfAddress address)))).outcome =
              .error (.unsupportedType (Text.upperFirst (typeNameOfAddress address))
                system.name) := by
          rw [Script.ofExcept, TypeSystem.canonicalize, hspelled]
        rw [fieldType, hsource]
        dsimp only
        rw [bind_of_error hrefused]
        refine .nothing fun canonical hleaves => ?_
        have hother := (exists_addressed_and haddress _).1 hleaves.spelled
        cases hspelled.symm.trans hother
  · rw [fieldType, hsource]
    refine .nothing fun canonical hleaves => ?_
    obtain ⟨address, haddress, -⟩ := hleaves.spelled
    exact hnone ⟨address, haddress⟩

/-- A member is refused for the lack of a name or under its name. -/
theorem edits_recordMember_of_error {sort : MemberSort} {record : String → Xml.Node → Script Unit}
    (h : (recordMember sort owner record member).outcome = .error fault) :
    ¬Filled member "name" ∧ (recordMember sort owner record member).edits = [] ∨
      ∃ name, member.text? "name" = some name ∧ (record name member).outcome = .error fault ∧
        (recordMember sort owner record member).edits = (record name member).edits := by
  unfold recordMember at h ⊢
  cases hname : member.text? "name" with
  | none => exact .inl ⟨text?_eq_none_iff.1 hname, rfl⟩
  | some name =>
      simp only [hname] at h ⊢
      by_cases hid : isIdName name = true
      · rw [if_pos hid] at h
        cases h
      · rw [if_neg hid] at h ⊢
        exact .inr ⟨name, rfl, h, rfl⟩

theorem abandoned_recordMemberOf
    (h : (recordMemberOf system owner member).outcome = .error fault) :
    Abandoned system member (recordMemberOf system owner member).edits := by
  unfold recordMemberOf at h ⊢
  by_cases htag : member.tag = attributeTag
  · rw [if_pos htag] at h ⊢
    obtain ⟨hunnamed, hedits⟩ | ⟨name, hname, hfield, hedits⟩ := edits_recordMember_of_error h
    · rw [hedits]
      exact .nothing fun _ hleaves => hunnamed hleaves.name
    · rw [hedits]
      exact abandoned_recordField htag (filled_iff.2 ⟨name, hname⟩) hfield
  · rw [if_neg htag] at h ⊢
    have hedits : (recordMember .operation owner (recordOperation owner) member).edits = [] := by
      obtain ⟨-, hedits⟩ | ⟨name, -, hoperation, hedits⟩ := edits_recordMember_of_error h
      · exact hedits
      · rw [hedits]
        exact (of_bind_eq_error (fun _ => succeeds_edit _) hoperation).2
    rw [hedits]
    exact .nothing fun _ hleaves => htag hleaves.tag

end

namespace Abandoned

variable {system : TypeSystem} {member : Xml.Node} {edits : List Edit}
  (h : Abandoned system member edits)

include h

/-- A member that is refused is not added to its entity. -/
theorem addsNoMember : ∀ edit ∈ edits, edit.AddsNoMember := by
  cases h with
  | nothing _ => exact List.forall_mem_nil _
  | reference _ _ _ _ _ => exact List.forall_mem_singleton.2 ⟨rfl, rfl⟩
  | type _ _ => exact List.forall_mem_singleton.2 ⟨rfl, rfl⟩

/-- The type that a member leaves stands under its own name. -/
theorem applyAll_of_leavesType {canonical : String} (hleaves : LeavesType system member canonical)
    (store : Store) : Edit.applyAll edits store = store.addType canonical ⟨canonical⟩ := by
  cases h with
  | nothing hnone => exact absurd hleaves (hnone canonical)
  | reference _ _ _ _ hnone => exact absurd hleaves (hnone canonical)
  | type other hother => rw [hleaves.unique hother]; rfl

/-- A member that leaves no type leaves the store as it was. -/
theorem applyAll_of_not_leavesType (hnone : ∀ canonical, ¬LeavesType system member canonical)
    (store : Store) : Edit.applyAll edits store = store := by
  cases h with
  | nothing _ => rfl
  | reference _ _ _ _ _ => rfl
  | type canonical hleaves => exact absurd hleaves (hnone canonical)

end Abandoned

/-! ## The members of an element -/

/-- Reading the members of an element stops at one of them, after those in `front`.  The entity and
the store are left as these leave them, but for the type that the member may leave. -/
structure StopsAt (system : TypeSystem) (owner : Owner) (node : Xml.Node) (draft : Draft)
    (fault : Fault) (front : List Xml.Node) (member : Xml.Node) : Prop where
  before : ((buildMembers system owner (withChildren node front)).run draft).result = .ok ()
  /-- The fault is that of the member by itself, whatever entity and store there are. -/
  alone : ∀ other, ((buildMembers system owner (withChildren node [member])).run other).result =
    .error fault
  entity : ((buildMembers system owner node).run draft).state.entity =
    ((buildMembers system owner (withChildren node front)).run draft).state.entity
  store_of_leavesType : ∀ canonical, LeavesType system member canonical →
    ((buildMembers system owner node).run draft).state.store =
      ((buildMembers system owner (withChildren node front)).run draft).state.store.addType
        canonical ⟨canonical⟩
  store_of_not_leavesType : (∀ canonical, ¬LeavesType system member canonical) →
    ((buildMembers system owner node).run draft).state.store =
      ((buildMembers system owner (withChildren node front)).run draft).state.store

theorem exists_stopsAt {system : TypeSystem} {owner : Owner} {node : Xml.Node} {fault : Fault}
    (h : (recordMembers system owner node).outcome = .error fault) (draft : Draft) :
    ∃ front member back, membersInOrder node = front ++ member :: back ∧
      StopsAt system owner node draft fault front member := by
  rw [recordMembers_eq_forM] at h
  obtain ⟨front, member, back, hmembers, hfront, hmember, hedits⟩ := exists_of_forM_eq_error h
  rw [← recordMembers_eq_forM] at hedits
  have hbefore : recordMembers system owner (withChildren node front) =
      forM front (recordMemberOf system owner) :=
    recordMembers_withChildren (hmembers ▸ List.sublist_append_left front _) system owner
  have halone : recordMembers system owner (withChildren node [member]) =
      recordMemberOf system owner member := by
    rw [recordMembers_withChildren (List.singleton_sublist.2 (by simp [hmembers])),
      List.forM_cons, List.forM_nil]
    exact bind_pure _
  have habandoned := abandoned_recordMemberOf hmember
  refine ⟨front, member, back, hmembers, ?_⟩
  constructor
  · obtain ⟨_, hsucceeds⟩ := hfront
    rw [run_buildMembers, hbefore]
    exact hsucceeds
  · intro other
    rw [run_buildMembers, halone]
    exact hmember
  · rw [run_buildMembers, run_buildMembers, hedits, hbefore]
    exact (draft.entity.withMembersOf_append _ _).trans
      (Entity.withMembersOf_of_forall _ habandoned.addsNoMember)
  · intro canonical hleaves
    rw [run_buildMembers, run_buildMembers, hedits, hbefore, Edit.applyAll_append]
    exact habandoned.applyAll_of_leavesType hleaves _
  · intro hnone
    rw [run_buildMembers, run_buildMembers, hedits, hbefore, Edit.applyAll_append]
    exact habandoned.applyAll_of_not_leavesType hnone _

/-! ## Classes and interfaces -/

/-- The maps in which members stand, and that of the types, are the same. -/
structure SameMembers (store store' : Store) : Prop where
  types : store.types = store'.types
  fields : store.fields = store'.fields
  operations : store.operations = store'.operations

/-- The members of a class or an interface have been read from the store up to one that is refused,
and this is what they leave. -/
def MembersStop (system : TypeSystem) (kind : EntityKind) (node : Xml.Node) (store : Store)
    (fault : Fault) (left : Store) : Prop :=
  ∃ names id front member back, readClassName kind node = .ok names ∧
    node.text? idAttribute = some id ∧ membersInOrder node = front ++ member :: back ∧
    StopsAt system (ownerOf kind names id) node ⟨entityNamed names node, store⟩ fault front
      member ∧
    SameMembers left ((buildMembers system (ownerOf kind names id) node).run
      ⟨entityNamed names node, store⟩).state.store

/-- What a class or an interface that is refused leaves of a store. -/
structure EntityStops (system : TypeSystem) (kind : EntityKind) (node : Xml.Node) (store : Store)
    (fault : Fault) (left : Store) : Prop where
  classes : left.classes = store.classes
  interfaces : left.interfaces = store.interfaces
  enumerations : left.enumerations = store.enumerations
  associations : left.associations = store.associations
  members : left = store ∨ MembersStop system kind node store fault left
  /-- A class that is named as the user class and has an id has taken the place, if it was free. -/
  userClass : left.userClass =
    store.userClass.or (if kind = .concrete then userClass? node else none)

section

variable {system : TypeSystem} {kind : EntityKind} {node : Xml.Node} {fault : Fault}

/-- An entity with names and an id makes its claim and then goes on to its body. -/
theorem recordEntity_of_ok {names : ClassName} {id : ElementId}
    (hnames : readClassName kind node = .ok names) (hid : elementId node = .ok id) :
    recordEntity system kind node =
      ⟨(claimPlace kind names id).edits ++ (recordBody system kind names id node).edits,
        (recordBody system kind names id node).outcome⟩ := by
  obtain ⟨_, hclaim⟩ := succeeds_claimPlace kind names id
  rw [recordEntity_eq, hnames, hid]
  exact bind_of_ok hclaim _

/-- An entity is refused for its names or its id before it makes an edit, or else for its members
after its claim to be the user class. -/
theorem edits_recordEntity_of_error (h : (recordEntity system kind node).outcome = .error fault) :
    (recordEntity system kind node).edits = [] ∧
        ((∀ names, readClassName kind node ≠ .ok names) ∨ node.text? idAttribute = none) ∨
      ∃ names id, readClassName kind node = .ok names ∧ node.text? idAttribute = some id ∧
        (recordMembers system (ownerOf kind names id) node).outcome = .error fault ∧
        (recordEntity system kind node).edits = (claimPlace kind names id).edits ++
          (recordMembers system (ownerOf kind names id) node).edits := by
  cases hnames : readClassName kind node with
  | error other =>
      refine .inl ⟨?_, .inl fun names => nofun⟩
      rw [recordEntity_eq, hnames]
      rfl
  | ok names =>
      cases hid : elementId node with
      | error other =>
          refine .inl ⟨?_, .inr (text?_eq_none_iff.2 fun hfilled => ?_)⟩
          · rw [recordEntity_eq, hnames, hid]
            rfl
          · obtain ⟨id, hok⟩ := ok_elementId.2 hfilled
            cases hok.symm.trans hid
      | ok id =>
          rw [recordEntity_of_ok hnames hid] at h ⊢
          obtain ⟨hmembers, hbody⟩ := of_bind_eq_error (fun _ => ⟨id, rfl⟩) h
          refine .inr ⟨names, id, rfl, elementId_eq_ok_iff.1 hid,
            collecting_eq_error_iff.1 hmembers, ?_⟩
          exact congrArg ((claimPlace kind names id).edits ++ ·) hbody

/-- The members of an entity are read into a map as if it made no claim. -/
theorem map_applyAll_claimPlace {υ : Type} (part : StorePart υ)
    (hpart : ∀ id, part.writes? (.claimUserClass id) = none) (names : ClassName) (id : ElementId)
    (edits : List Edit) (store : Store) :
    part.map (Edit.applyAll ((claimPlace kind names id).edits ++ edits) store) =
      part.map (Edit.applyAll edits store) := by
  rw [part.map_applyAll, part.written_append, written_claimPlace (hpart id), List.nil_append,
    ← part.map_applyAll]

/-- The edit enters no enumeration, no class or interface and no association. -/
structure Edit.SparesElements (e : Edit) : Prop where
  enumerations : StorePart.enumerations.writes? e = none
  entities : ∀ kind, (StorePart.entities kind).writes? e = none
  associations : StorePart.associations.writes? e = none

/-- Until an entity enters itself, it enters only types and members. -/
theorem sparesElements_of_mem {owner : Owner} {names : ClassName} {id : ElementId} {e : Edit}
    (he : e ∈ (claimPlace kind names id).edits ++ (recordMembers system owner node).edits) :
    e.SparesElements := by
  have hclaim : (claimPlace kind names id).MakesOnly Edit.SparesElements :=
    makesOnly_claimPlace ⟨rfl, fun _ => rfl, rfl⟩
  have hmembers : (recordMembers system owner node).MakesOnly Edit.SparesElements := by
    apply makesOnly_recordMembers <;> intros <;> exact ⟨rfl, fun _ => rfl, rfl⟩
  exact (List.mem_append.1 he).elim (hclaim e) (hmembers e)

/-- A map to which no edit writes is as it was. -/
theorem map_applyAll_of_forall {υ : Type} (part : StorePart υ) {edits : List Edit}
    (h : ∀ e ∈ edits, part.writes? e = none) (store : Store) :
    part.map (Edit.applyAll edits store) = part.map store := by
  have hwritten : part.written edits = [] := List.filterMap_eq_nil_iff.2 h
  rw [part.map_applyAll, hwritten]
  rfl

/-- An entity that is refused leaves what its members leave, and its claim. -/
theorem entityStops_of_error (h : (recordEntity system kind node).outcome = .error fault)
    (store : Store) :
    EntityStops system kind node store fault
      ((buildEntity system kind node).run store).store := by
  rw [buildEntity_eq, run_replay, run]
  obtain ⟨hedits, hrefused⟩ | ⟨names, id, hnames, hid, hmembers, hedits⟩ :=
    edits_recordEntity_of_error h
  · rw [hedits, Edit.applyAll_nil]
    refine ⟨rfl, rfl, rfl, rfl, .inl rfl, ?_⟩
    rw [userClass?_eq_none hrefused, ite_self, Option.or_none]
  · rw [hedits]
    obtain ⟨front, member, back, hsplit, hstops⟩ :=
      exists_stopsAt hmembers ⟨entityNamed names node, store⟩
    have hentities : ∀ kind', (Edit.applyAll ((claimPlace kind names id).edits ++
        (recordMembers system (ownerOf kind names id) node).edits) store).entities kind' =
          store.entities kind' := fun kind' =>
      map_applyAll_of_forall (.entities kind')
        (fun e he => (sparesElements_of_mem he).entities kind') store
    exact {
      classes := hentities .concrete
      interfaces := hentities .interface
      enumerations := map_applyAll_of_forall .enumerations
        (fun e he => (sparesElements_of_mem he).enumerations) store
      associations := map_applyAll_of_forall .associations
        (fun e he => (sparesElements_of_mem he).associations) store
      members := by
        refine .inr ⟨names, id, front, member, back, hnames, hid, hsplit, hstops, ?_⟩
        rw [run_buildMembers]
        exact {
          types := map_applyAll_claimPlace .types (fun _ => rfl) _ _ _ _
          fields := map_applyAll_claimPlace .fields (fun _ => rfl) _ _ _ _
          operations := map_applyAll_claimPlace .operations (fun _ => rfl) _ _ _ _ }
      userClass := by
        rw [userClass_applyAll, Edit.claims_append, claims_claimPlace hnames hid,
          claims_recordMembers, List.append_nil]
        split
        · rw [Option.head?_toList]
        · rfl }

end

/-- Members that are refused leave the store and the entity as the members before the first of them
do, but for the type of an attribute that has a name, a type from outside and no id.  A class or an
interface that is refused leaves no more than its members do, and it is taken for the user class as
if it had been entered. -/
theorem stops_of_error (system : TypeSystem) (node : Xml.Node) (store : Store) (fault : Fault) :
    (∀ owner entity,
      ((buildMembers system owner node).run ⟨entity, store⟩).result = .error fault →
        ∃ front member back, membersInOrder node = front ++ member :: back ∧
          StopsAt system owner node ⟨entity, store⟩ fault front member) ∧
    ∀ kind, ((buildEntity system kind node).run store).result = .error fault →
      EntityStops system kind node store fault
        ((buildEntity system kind node).run store).store := by
  constructor
  · intro owner entity h
    rw [run_buildMembers] at h
    exact exists_stopsAt h ⟨entity, store⟩
  · intro kind h
    rw [buildEntity_eq, run_replay] at h
    exact entityStops_of_error h store

/-- A class of users with one attribute. -/
def usersWith (member : Xml.Node) : Xml.Node :=
  (elementNamed "uml:Class" "c" "User").withChild member

/-- An attribute with a type from outside, without a name and without an id. -/
def unnamedAttribute : Xml.Node :=
  (Xml.Node.ofTag attributeTag).withChild
    ((Xml.Node.ofTag "type").withAttribute "href" "types.uml#String")

/-- The same attribute with a name. -/
def labelWithoutId : Xml.Node := unnamedAttribute.withAttribute "name" "label"

theorem canonical?_string : TypeSystem.sql.canonical?
    (Text.upperFirst (typeNameOfAddress "types.uml#String")) = some "String" := by
  decide +kernel

theorem addressed_unnamedAttribute : Addressed unnamedAttribute "types.uml#String" :=
  ⟨(Xml.Node.ofTag "type").withAttribute "href" "types.uml#String", rfl, rfl, by decide⟩

theorem leavesType_labelWithoutId : LeavesType .sql labelWithoutId "String" where
  tag := rfl
  name := ⟨"label", rfl, by decide⟩
  outside := text?_eq_none_iff.1 rfl
  spelled := ⟨"types.uml#String", addressed_unnamedAttribute, canonical?_string⟩
  id := text?_eq_none_iff.1 rfl

/-- The entity of users before its members are read, and a store with nothing in it. -/
def usersDraft : Draft := ⟨Entity.named "User" none, .empty⟩

/-- A class of users is refused for an attribute without an id, and the type stays. -/
theorem stops_of_error_labelWithoutId :
    LeavesType .sql labelWithoutId "String" ∧
    (∃ front member back, membersInOrder (usersWith labelWithoutId) = front ++ member :: back ∧
      StopsAt .sql ⟨"c", .concrete, "User"⟩ (usersWith labelWithoutId) usersDraft
        (.missingId attributeTag "label") front member) ∧
    EntityStops .sql .concrete (usersWith labelWithoutId) .empty
      (.missingId attributeTag "label")
      ((buildEntity .sql .concrete (usersWith labelWithoutId)).run .empty).store := by
  have hmembers : ((buildMembers .sql ⟨"c", .concrete, "User"⟩
      (usersWith labelWithoutId)).run usersDraft).result =
        .error (.missingId attributeTag "label") := rfl
  have hentity : ((buildEntity .sql .concrete (usersWith labelWithoutId)).run .empty).result =
      .error (.missingId attributeTag "label") := rfl
  have hstops := stops_of_error .sql (usersWith labelWithoutId) .empty
    (.missingId attributeTag "label")
  exact ⟨leavesType_labelWithoutId, hstops.1 _ _ hmembers, hstops.2 _ hentity⟩

/-- An attribute without a name is refused before its type is looked at: it has a type from outside
and no id, and it leaves no type behind. -/
theorem unnamedAttribute_leaves_no_type :
    membersInOrder (usersWith unnamedAttribute) = [unnamedAttribute] ∧
      unnamedAttribute.tag = attributeTag ∧ ¬Filled unnamedAttribute "type" ∧
      Addressed unnamedAttribute "types.uml#String" ∧
      TypeSystem.sql.canonical? (Text.upperFirst (typeNameOfAddress "types.uml#String")) =
        some "String" ∧
      ¬Filled unnamedAttribute idAttribute ∧
      ((buildMembers .sql ⟨"c", .concrete, "User"⟩ (usersWith unnamedAttribute)).run
        usersDraft).result = .error (.unnamedMember .field .concrete "User") ∧
      ((buildMembers .sql ⟨"c", .concrete, "User"⟩ (usersWith unnamedAttribute)).run
        usersDraft).state.store ≠
          ((buildMembers .sql ⟨"c", .concrete, "User"⟩ (withChildren (usersWith unnamedAttribute)
            [])).run usersDraft).state.store.addType "String" ⟨"String"⟩ := by
  have hempty : ∀ key, unnamedAttribute.text? key = none := fun _ => rfl
  refine ⟨rfl, rfl, text?_eq_none_iff.1 (hempty "type"), addressed_unnamedAttribute,
    canonical?_string, text?_eq_none_iff.1 (hempty idAttribute), rfl, fun hsame => ?_⟩
  have htypes := congrArg (fun store : Store => store.types.contains "String") hsame
  cases htypes

end ClassDiagram
