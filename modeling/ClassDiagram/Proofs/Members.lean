import ClassDiagram.Proofs.Edits
import Mathlib.Data.List.Forall2

/-!
# The members that an entity enters

The fields and the operations of a diagram are two maps of one form: each member
is entered under its own id, names its owner, and is listed by it.  `MemberPart`
is such a map.  What a class or an interface does to it is that it `Declares` its
members: those entered are those that the element has in the document, one for
one, and the entity lists them as they are entered.
-/

namespace ClassDiagram

open Script

variable {υ : Type}

/-! ## Members in a document -/

/-- The member is named like an id. -/
def isIdMember (node : Xml.Node) : Bool := (node.text? "name").any isIdName

/-- The members of an element under a tag, without those named like an id. -/
def membersOf (tag : String) (node : Xml.Node) : List Xml.Node :=
  (node.childrenTagged tag).filter (!isIdMember ·)

/-- A member is entered under its own id and for the owner. -/
def Enters (owner : υ → ElementId) (id : ElementId) (node : Xml.Node) (entry : ElementId × υ) :
    Prop :=
  node.text? idAttribute = some entry.1 ∧ owner entry.2 = id

/-- Elements that make one entry each correspond to their entries. -/
theorem forall₂_flatMap_of_single {α β : Type} {related : α → β → Prop} {f : α → List β}
    {items : List α} (h : ∀ item ∈ items, ∃ entry, related item entry ∧ f item = [entry]) :
    List.Forall₂ related items (items.flatMap f) := by
  induction items with
  | nil => exact .nil
  | cons item items ih =>
      obtain ⟨entry, hrelated, hentry⟩ := h item List.mem_cons_self
      rw [List.flatMap_cons, hentry]
      exact .cons hrelated (ih fun other hother => h other (List.mem_cons_of_mem item hother))

/-- Members named like an id write nothing. -/
theorem written_recordMember_of_isIdMember {part : StorePart υ} {sort : MemberSort}
    {entity : Owner} {record : String → Xml.Node → Script Unit} {node : Xml.Node}
    (h : (recordMember sort entity record node).Succeeds) (hid : isIdMember node = true) :
    part.written (recordMember sort entity record node).edits = [] := by
  obtain ⟨name, hname, hskipped | hrecorded⟩ := edits_recordMember h
  · rw [hskipped.2, StorePart.written_report, StorePart.written_nil]
  · simp [isIdMember, hname, hrecorded.1] at hid

/-- A member that is not named like an id is recorded under its name. -/
theorem edits_recordMember_of_not_isIdMember {sort : MemberSort} {entity : Owner}
    {record : String → Xml.Node → Script Unit} {node : Xml.Node}
    (h : (recordMember sort entity record node).Succeeds) (hid : isIdMember node = false) :
    ∃ name, node.text? "name" = some name ∧ (record name node).Succeeds ∧
      (recordMember sort entity record node).edits = (record name node).edits := by
  obtain ⟨name, hname, hskipped | hrecorded⟩ := edits_recordMember h
  · simp [isIdMember, hname, hskipped.1] at hid
  · exact ⟨name, hname, hrecorded.2⟩

/-- What members write is written by those that are not named like an id, in order. -/
theorem written_flatMap_recordMember {part : StorePart υ} {sort : MemberSort} {entity : Owner}
    {record : String → Xml.Node → Script Unit} {nodes : List Xml.Node}
    (h : ∀ node ∈ nodes, (recordMember sort entity record node).Succeeds) :
    part.written (nodes.flatMap fun node => (recordMember sort entity record node).edits) =
      (nodes.filter (!isIdMember ·)).flatMap fun node =>
        part.written (recordMember sort entity record node).edits := by
  induction nodes with
  | nil => rfl
  | cons node nodes ih =>
      have hnodes := ih fun other hother => h other (List.mem_cons_of_mem node hother)
      rw [List.flatMap_cons, StorePart.written_append, hnodes]
      by_cases hid : isIdMember node = true
      · rw [written_recordMember_of_isIdMember (h node List.mem_cons_self) hid, List.nil_append,
          List.filter_cons_of_neg (by simp [hid])]
      · rw [List.filter_cons_of_pos (by simp [hid]), List.flatMap_cons]

/-- If each member that is recorded makes one entry of its own, then the members that are not
named like an id make one each, in order. -/
theorem forall₂_flatMap_recordMember {part : StorePart υ}
    {related : Xml.Node → ElementId × υ → Prop} {sort : MemberSort} {entity : Owner}
    {record : String → Xml.Node → Script Unit} {nodes : List Xml.Node}
    (h : ∀ node ∈ nodes, (recordMember sort entity record node).Succeeds)
    (hrecord : ∀ name node, node.text? "name" = some name → (record name node).Succeeds →
      ∃ entry, related node entry ∧ part.written (record name node).edits = [entry]) :
    List.Forall₂ related (nodes.filter (!isIdMember ·))
      (part.written (nodes.flatMap fun node => (recordMember sort entity record node).edits)) := by
  rw [written_flatMap_recordMember h]
  apply forall₂_flatMap_of_single
  intro node hnode
  obtain ⟨hmem, hid⟩ := List.mem_filter.1 hnode
  obtain ⟨name, hname, hsucceeds, hedits⟩ :=
    edits_recordMember_of_not_isIdMember (h node hmem) (by simpa using hid)
  rw [hedits]
  exact hrecord name node hname hsucceeds

/-- What members write is written by one that is recorded under its name. -/
theorem exists_record_of_mem_written {part : StorePart υ} {sort : MemberSort} {entity : Owner}
    {record : String → Xml.Node → Script Unit} {nodes : List Xml.Node}
    (h : ∀ node ∈ nodes, (recordMember sort entity record node).Succeeds)
    {entry : ElementId × υ} (hentry : entry ∈ part.written (nodes.flatMap fun node =>
      (recordMember sort entity record node).edits)) :
    ∃ node ∈ nodes.filter (!isIdMember ·), ∃ name, node.text? "name" = some name ∧
      (record name node).Succeeds ∧ entry ∈ part.written (record name node).edits := by
  rw [written_flatMap_recordMember h] at hentry
  obtain ⟨node, hnode, hentry⟩ := List.mem_flatMap.1 hentry
  obtain ⟨hmem, hid⟩ := List.mem_filter.1 hnode
  obtain ⟨name, hname, hsucceeds, hedits⟩ :=
    edits_recordMember_of_not_isIdMember (h node hmem) (by simpa using hid)
  exact ⟨node, hnode, name, hname, hsucceeds, hedits ▸ hentry⟩

/-- Operations write only what they declare. -/
theorem written_recordOperations {part : StorePart υ} {entity : Owner} {nodes : List Xml.Node}
    (h : ∀ id operation, part.writes? (.addOperation id operation) = none) :
    part.written (nodes.flatMap fun node =>
      (recordMember .operation entity (recordOperation entity) node).edits) = [] := by
  rw [StorePart.written_flatMap, List.flatMap_eq_nil_iff]
  intro node _
  exact written_of_makesOnly
    (makesOnly_recordMember (part.writes?_report _) fun _ => makesOnly_recordOperation h)

/-! ## The two maps of members -/

/-- A map of members: where an entity lists them, and what they say of their owner. -/
structure MemberPart (υ : Type) extends StorePart υ where
  /-- The tag of the members in a document. -/
  tag : String
  owner : υ → ElementId
  list : Entity → List ElementId
  list_withMembersOf : ∀ names node edits,
    list ((entityNamed names node).withMembersOf edits) =
      (toStorePart.written edits).map Prod.fst
  enters_recordMembers : ∀ {system : TypeSystem} {entity : Owner} {node : Xml.Node},
    (recordMembers system entity node).Succeeds →
      List.Forall₂ (Enters owner entity.id) (membersOf tag node)
        (toStorePart.written (recordMembers system entity node).edits)
  writes?_claim : ∀ id, writes? (.claimUserClass id) = none
  writes?_entity : ∀ kind id entity, writes? (.addEntity kind id entity) = none
  /-- Only classes and interfaces have members. -/
  kind_of_fits : ∀ {kind : ElementKind} {edit : Edit}, Edit.Fits kind edit →
    writes? edit = none ∨ ∃ kind', kind = .entity kind'

namespace MemberPart

/-- The type of a field makes no entry among the fields. -/
theorem written_fields_fieldType {system : TypeSystem} {entity : Owner} {name : String}
    {node : Xml.Node} :
    StorePart.fields.written (fieldType system entity name node).edits = [] :=
  written_of_makesOnly (makesOnly_fieldType (fun _ _ => rfl) fun _ => rfl)

/-- An attribute makes one entry among the fields, with its type. -/
theorem written_fields_recordField {system : TypeSystem} {entity : Owner} {name : String}
    {node : Xml.Node} (h : (recordField system entity name node).Succeeds) :
    ∃ id type, node.text? idAttribute = some id ∧
      (fieldType system entity name node).outcome = .ok type ∧
      StorePart.fields.written (recordField system entity name node).edits =
        [(id, ⟨Text.lowerFirst name, type, comment? node, entity.id⟩)] := by
  obtain ⟨id, type, hid, htype, hedits⟩ := edits_recordField h
  refine ⟨id, type, hid, htype, ?_⟩
  rw [hedits, StorePart.written_append, written_fields_fieldType]
  rfl

/-- The field that an attribute enters is its owner's. -/
theorem enters_recordField {system : TypeSystem} {entity : Owner} {name : String}
    {node : Xml.Node} (h : (recordField system entity name node).Succeeds) :
    ∃ entry, Enters Field.owner entity.id node entry ∧
      StorePart.fields.written (recordField system entity name node).edits = [entry] := by
  obtain ⟨id, type, hid, -, hwritten⟩ := written_fields_recordField h
  exact ⟨_, ⟨hid, rfl⟩, hwritten⟩

/-- The fields of an element come from its attributes. -/
theorem written_fields_recordMembers {system : TypeSystem} {entity : Owner} {node : Xml.Node}
    (h : (recordMembers system entity node).Succeeds) :
    StorePart.fields.written (recordMembers system entity node).edits =
      StorePart.fields.written ((node.childrenTagged attributeTag).flatMap fun member =>
        (recordMember .field entity (recordField system entity) member).edits) := by
  rw [(edits_recordMembers h).2.2, StorePart.written_append,
    written_recordOperations fun _ _ => rfl, List.append_nil]

/-- The fields, which are the attributes in a document. -/
def fields : MemberPart Field where
  toStorePart := StorePart.fields
  tag := attributeTag
  owner := Field.owner
  list := Entity.fields
  list_withMembersOf names node edits := by
    have hid : ∀ e : Edit, e.fieldId? = (StorePart.fields.writes? e).map Prod.fst := by
      intro e
      cases e <;> rfl
    exact StorePart.filterMap_eq_map_written hid edits
  enters_recordMembers h := by
    rw [written_fields_recordMembers h]
    exact forall₂_flatMap_recordMember (edits_recordMembers h).1
      fun _ _ _ => enters_recordField
  writes?_claim _ := rfl
  writes?_entity _ _ _ := rfl
  kind_of_fits {kind edit} h := by
    cases kind with
    | entity kind => exact .inr ⟨kind, rfl⟩
    | _ => cases edit <;> first | exact .inl rfl | cases h

/-- An operation makes one entry among the operations. -/
theorem enters_recordOperation {entity : Owner} {name : String} {node : Xml.Node}
    (h : (recordOperation entity name node).Succeeds) :
    ∃ entry, Enters Operation.owner entity.id node entry ∧
      StorePart.operations.written (recordOperation entity name node).edits = [entry] := by
  obtain ⟨id, operation, hid, -, howner, hedits⟩ := edits_recordOperation h
  refine ⟨(id, operation), ⟨hid, howner⟩, ?_⟩
  rw [hedits]
  rfl

/-- Attributes make no entry among the operations. -/
theorem written_operations_recordFields {system : TypeSystem} {entity : Owner}
    {nodes : List Xml.Node} :
    StorePart.operations.written (nodes.flatMap fun node =>
      (recordMember .field entity (recordField system entity) node).edits) = [] := by
  rw [StorePart.written_flatMap, List.flatMap_eq_nil_iff]
  intro node _
  exact written_of_makesOnly (makesOnly_recordMember rfl fun _ =>
    makesOnly_recordField (fun _ _ => rfl) (fun _ => rfl) fun _ _ => rfl)

/-- The operations of an element come from its operations. -/
theorem written_operations_recordMembers {system : TypeSystem} {entity : Owner}
    {node : Xml.Node} (h : (recordMembers system entity node).Succeeds) :
    StorePart.operations.written (recordMembers system entity node).edits =
      StorePart.operations.written ((node.childrenTagged operationTag).flatMap fun member =>
        (recordMember .operation entity (recordOperation entity) member).edits) := by
  rw [(edits_recordMembers h).2.2, StorePart.written_append, written_operations_recordFields,
    List.nil_append]

/-- The operations. -/
def operations : MemberPart Operation where
  toStorePart := StorePart.operations
  tag := operationTag
  owner := Operation.owner
  list := Entity.operations
  list_withMembersOf names node edits := by
    have hid : ∀ e : Edit, e.operationId? = (StorePart.operations.writes? e).map Prod.fst := by
      intro e
      cases e <;> rfl
    exact StorePart.filterMap_eq_map_written hid edits
  enters_recordMembers h := by
    rw [written_operations_recordMembers h]
    exact forall₂_flatMap_recordMember (edits_recordMembers h).2.1
      fun _ _ _ => enters_recordOperation
  writes?_claim _ := rfl
  writes?_entity _ _ _ := rfl
  kind_of_fits {kind edit} h := by
    cases kind with
    | entity kind => exact .inr ⟨kind, rfl⟩
    | _ => cases edit <;> first | exact .inl rfl | cases h

end MemberPart

/-- Only classes and interfaces write to a map of members. -/
theorem members_writtenBy (part : MemberPart υ) :
    part.WrittenBy fun kind => ∃ entity, kind = .entity entity :=
  fun _ _ => part.kind_of_fits

/-! ## Whole entities -/

/-- What an element declares is entered as the entity with this id: it lists the members that
come with it, which are those of the element. -/
structure Declares (system : TypeSystem) (kind : EntityKind) (node : Xml.Node)
    (entry : ElementId × Entity) : Prop where
  id : node.text? idAttribute = some entry.1
  enters : ∀ {υ : Type} (part : MemberPart υ),
    List.Forall₂ (Enters part.owner entry.1) (membersOf part.tag node)
      (part.written (recordElement system (.entity kind) node).edits)
  list_eq : ∀ {υ : Type} (part : MemberPart υ), part.list entry.2 =
    (part.written (recordElement system (.entity kind) node).edits).map Prod.fst

theorem written_claimPlace {part : StorePart υ} {kind : EntityKind} {names : ClassName}
    {id : ElementId} (hclaim : part.writes? (.claimUserClass id) = none) :
    part.written (claimPlace kind names id).edits = [] :=
  written_of_makesOnly (makesOnly_claimPlace hclaim)

/-- A class or an interface writes what its members write and, last, its own entry. -/
theorem written_recordElement_eq_append {system : TypeSystem} {kind : EntityKind}
    {node : Xml.Node} (h : (recordElement system (.entity kind) node).Succeeds) :
    ∃ names id, readClassName kind node = .ok names ∧ node.text? idAttribute = some id ∧
      (recordMembers system (ownerOf kind names id) node).Succeeds ∧
      ∀ {υ : Type} {part : StorePart υ}, part.writes? (.claimUserClass id) = none →
        part.written (recordElement system (.entity kind) node).edits =
          part.written (recordMembers system (ownerOf kind names id) node).edits ++
            part.written [.addEntity kind id ((entityNamed names node).withMembersOf
              (recordMembers system (ownerOf kind names id) node).edits)] := by
  obtain ⟨names, id, hnames, hid, hmembers, hedits⟩ := edits_recordElement_entity h
  refine ⟨names, id, hnames, hid, hmembers, ?_⟩
  intro υ part hclaim
  rw [hedits, StorePart.written_append, StorePart.written_append,
    written_claimPlace hclaim, entering, StorePart.written_report, List.nil_append]

/-- A class or an interface enters the members that it has and, last, itself under its name. -/
theorem written_recordElement {system : TypeSystem} {kind : EntityKind} {node : Xml.Node}
    (h : (recordElement system (.entity kind) node).Succeeds) :
    ∃ names id, readClassName kind node = .ok names ∧ node.text? idAttribute = some id ∧
      (recordMembers system (ownerOf kind names id) node).Succeeds ∧
      (∀ {υ : Type} (part : MemberPart υ),
        part.written (recordElement system (.entity kind) node).edits =
          part.written (recordMembers system (ownerOf kind names id) node).edits) ∧
      (StorePart.entities kind).written (recordElement system (.entity kind) node).edits =
        [(id, (entityNamed names node).withMembersOf
          (recordMembers system (ownerOf kind names id) node).edits)] := by
  obtain ⟨names, id, hnames, hid, hmembers, hwritten⟩ := written_recordElement_eq_append h
  refine ⟨names, id, hnames, hid, hmembers, ?_, ?_⟩
  · intro υ part
    have hlast : part.written [.addEntity kind id ((entityNamed names node).withMembersOf
        (recordMembers system (ownerOf kind names id) node).edits)] = [] :=
      List.filterMap_cons_none (part.writes?_entity kind id _)
    rw [hwritten (part.writes?_claim id), hlast, List.append_nil]
  · have hothers : (StorePart.entities kind).written
        (recordMembers system (ownerOf kind names id) node).edits = [] :=
      written_of_makesOnly (makesOnly_recordMembers (fun _ => rfl) (fun _ _ => rfl)
        (fun _ _ => rfl) (fun _ _ => rfl) fun _ _ => rfl)
    rw [hwritten rfl, hothers, List.nil_append]
    exact List.filterMap_cons_some (if_pos rfl)

/-- A class or an interface makes one entry of its kind. -/
theorem declares_of_recordElement {system : TypeSystem} {kind : EntityKind} {node : Xml.Node}
    (h : (recordElement system (.entity kind) node).Succeeds) :
    ∃ entry, Declares system kind node entry ∧
      (StorePart.entities kind).written (recordElement system (.entity kind) node).edits =
        [entry] := by
  obtain ⟨names, id, -, hid, hmembers, hwritten, hentity⟩ := written_recordElement h
  refine ⟨_, ⟨hid, ?_, ?_⟩, hentity⟩
  · intro υ part
    rw [hwritten part]
    exact part.enters_recordMembers hmembers
  · intro υ part
    rw [hwritten part]
    exact part.list_withMembersOf _ _ _

end ClassDiagram
