import ClassDiagram.Diagram
import ClassDiagram.Proofs.Entity
import ClassDiagram.Proofs.StorePart
import Mathlib.Data.List.Basic

/-!
# The edits that elements make

There are two kinds of statements on the edits of a script.  One says that it
`MakesOnly` edits of some forms; it holds of every script, also of one that fails,
and shows which maps the script leaves alone.  The other is on a script that ends
well and gives all its edits in order.
-/

namespace ClassDiagram

open Script

/-! ## Ids -/

theorem elementId_eq_ok_iff {node : Xml.Node} {id : ElementId} :
    elementId node = .ok id ↔ node.text? idAttribute = some id := by
  unfold elementId
  split <;> simp_all

/-! ## Types, enumerations and associations -/

theorem makesOnly_registerType {condition : Edit → Prop} {system : TypeSystem} {name : String}
    {id : ElementId} (hregister : ∀ canonical, condition (.registerType id canonical)) :
    (registerType system name id).MakesOnly condition := by
  unfold registerType
  refine makesOnly_bind (makesOnly_ofExcept _) fun canonical => ?_
  exact makesOnly_bind (makesOnly_edit (hregister canonical)) fun _ => makesOnly_pure _

theorem makesOnly_recordType {condition : Edit → Prop} {system : TypeSystem} {node : Xml.Node}
    (hregister : ∀ id canonical, condition (.registerType id canonical)) :
    (recordType system node).MakesOnly condition := by
  unfold recordType
  refine makesOnly_bind (makesOnly_ofExcept _) fun id => ?_
  exact makesOnly_bind (makesOnly_registerType (hregister id)) fun _ => makesOnly_pure _

/-- A type makes one edit, under its own id. -/
theorem edits_recordType {system : TypeSystem} {node : Xml.Node}
    (h : (recordType system node).Succeeds) :
    ∃ id canonical, node.text? idAttribute = some id ∧
      system.canonicalize ((node.attribute? "name").getD "") = .ok canonical ∧
      (recordType system node).edits = [.registerType id canonical] := by
  unfold recordType at h ⊢
  obtain ⟨id, hid, h⟩ := succeeds_bind.1 h
  obtain ⟨_, hregister, -⟩ := succeeds_bind.1 h
  obtain ⟨canonical, hcanonical, -⟩ := succeeds_bind.1 ⟨_, hregister⟩
  refine ⟨id, canonical, elementId_eq_ok_iff.1 hid, hcanonical, ?_⟩
  rw [edits_bind hid, edits_bind hregister, registerType, edits_bind hcanonical]
  rfl

/-- The id of an enumeration is that of its element. -/
theorem id_of_readEnumeration {node : Xml.Node} {id : ElementId} {enumeration : Enumeration}
    (h : readEnumeration node = .ok (id, enumeration)) :
    node.text? idAttribute = some id := by
  unfold readEnumeration at h
  split at h
  · obtain ⟨values, -, h⟩ := bind_eq_ok.1 h
    obtain ⟨id', hid, h⟩ := bind_eq_ok.1 h
    obtain ⟨rfl, -⟩ := Prod.mk.inj (Except.ok.inj h)
    exact elementId_eq_ok_iff.1 hid
  · cases h

theorem makesOnly_recordEnumeration {condition : Edit → Prop} {node : Xml.Node}
    (henumeration : ∀ id enumeration, condition (.addEnumeration id enumeration)) :
    (recordEnumeration node).MakesOnly condition := by
  unfold recordEnumeration
  refine makesOnly_bind (makesOnly_ofExcept _) fun result => ?_
  exact makesOnly_bind (makesOnly_edit (henumeration _ _)) fun _ => makesOnly_pure _

/-- An enumeration makes one edit, under its own id. -/
theorem edits_recordEnumeration {node : Xml.Node} (h : (recordEnumeration node).Succeeds) :
    ∃ id enumeration, node.text? idAttribute = some id ∧
      readEnumeration node = .ok (id, enumeration) ∧
      (recordEnumeration node).edits = [.addEnumeration id enumeration] := by
  unfold recordEnumeration at h ⊢
  obtain ⟨⟨id, enumeration⟩, hread, -⟩ := succeeds_bind.1 h
  refine ⟨id, enumeration, id_of_readEnumeration hread, hread, ?_⟩
  rw [edits_bind hread]
  rfl

/-- The id of an association is that of its element. -/
theorem id_of_readAssociation {node : Xml.Node} {id : ElementId} {association : Association}
    (h : readAssociation node = .ok (id, association)) : node.text? idAttribute = some id := by
  unfold readAssociation at h
  obtain ⟨id', hid, h⟩ := bind_eq_ok.1 h
  split at h
  · obtain ⟨association', -, h⟩ := bind_eq_ok.1 h
    obtain ⟨rfl, -⟩ := Prod.mk.inj (Except.ok.inj h)
    exact elementId_eq_ok_iff.1 hid
  · cases h

theorem makesOnly_recordAssociation {condition : Edit → Prop} {node : Xml.Node}
    (hreport : ∀ notice, condition (.report notice))
    (hassociation : ∀ id association, condition (.addAssociation id association)) :
    (recordAssociation node).MakesOnly condition := by
  unfold recordAssociation
  refine makesOnly_bind (makesOnly_ofExcept _) fun result => ?_
  refine makesOnly_bind (makesOnly_edit (hreport _)) fun _ => ?_
  exact makesOnly_bind (makesOnly_edit (hassociation _ _)) fun _ => makesOnly_pure _

/-- An association is reported and then entered under its own id. -/
theorem edits_recordAssociation {node : Xml.Node} (h : (recordAssociation node).Succeeds) :
    ∃ id association, node.text? idAttribute = some id ∧
      readAssociation node = .ok (id, association) ∧
      (recordAssociation node).edits = [.report (.builtAssociation id association.source
        association.target association.cardinality), .addAssociation id association] := by
  unfold recordAssociation at h ⊢
  obtain ⟨⟨id, association⟩, hread, -⟩ := succeeds_bind.1 h
  refine ⟨id, association, id_of_readAssociation hread, hread, ?_⟩
  rw [edits_bind hread]
  rfl

/-! ## Fields -/

theorem makesOnly_fieldType {condition : Edit → Prop} {system : TypeSystem} {owner : Owner}
    {name : String} {node : Xml.Node}
    (hregister : ∀ id canonical, condition (.registerType id canonical))
    (hrefer : ∀ id, condition (.referToType name owner.kind owner.name id)) :
    (fieldType system owner name node).MakesOnly condition := by
  unfold fieldType
  split
  · exact makesOnly_bind (makesOnly_edit (hrefer _)) fun _ => makesOnly_pure _
  · exact makesOnly_bind (makesOnly_ofExcept _) fun canonical =>
      makesOnly_registerType (hregister canonical)
  · exact makesOnly_ofExcept _

theorem makesOnly_recordField {condition : Edit → Prop} {system : TypeSystem} {owner : Owner}
    {name : String} {node : Xml.Node}
    (hregister : ∀ id canonical, condition (.registerType id canonical))
    (hrefer : ∀ id, condition (.referToType name owner.kind owner.name id))
    (hfield : ∀ id field, condition (.addField id field)) :
    (recordField system owner name node).MakesOnly condition := by
  unfold recordField
  refine makesOnly_bind (makesOnly_fieldType hregister hrefer) fun type => ?_
  exact makesOnly_bind (makesOnly_ofExcept _) fun id => makesOnly_edit (hfield id _)

/-- A field enters its type, if that comes from outside, and then itself. -/
theorem edits_recordField {system : TypeSystem} {owner : Owner} {name : String} {node : Xml.Node}
    (h : (recordField system owner name node).Succeeds) :
    ∃ id type, node.text? idAttribute = some id ∧
      (fieldType system owner name node).outcome = .ok type ∧
      (recordField system owner name node).edits =
        (fieldType system owner name node).edits ++
          [.addField id ⟨Text.lowerFirst name, type, comment? node, owner.id⟩] := by
  unfold recordField at h ⊢
  obtain ⟨type, htype, h⟩ := succeeds_bind.1 h
  obtain ⟨id, hid, -⟩ := succeeds_bind.1 h
  refine ⟨id, type, elementId_eq_ok_iff.1 hid, htype, ?_⟩
  rw [edits_bind htype, edits_bind hid]
  rfl

/-! ## Operations -/

theorem makesOnly_recordOperation {condition : Edit → Prop} {owner : Owner} {name : String}
    {node : Xml.Node} (hoperation : ∀ id operation, condition (.addOperation id operation)) :
    (recordOperation owner name node).MakesOnly condition := by
  unfold recordOperation
  exact makesOnly_bind (makesOnly_ofExcept _) fun _ => makesOnly_edit (hoperation _ _)

/-- The id of an operation is that of its element, and its owner is the one given. -/
theorem id_of_readOperation {owner : Owner} {name : String} {node : Xml.Node} {id : ElementId}
    {operation : Operation} (h : readOperation owner name node = .ok (id, operation)) :
    node.text? idAttribute = some id ∧ operation.owner = owner.id := by
  unfold readOperation at h
  obtain ⟨roles, -, h⟩ := bind_eq_ok.1 h
  obtain ⟨id', hid, h⟩ := bind_eq_ok.1 h
  obtain ⟨rfl, rfl⟩ := Prod.mk.inj (Except.ok.inj h)
  exact ⟨elementId_eq_ok_iff.1 hid, rfl⟩

/-- An operation makes one edit, under its own id. -/
theorem edits_recordOperation {owner : Owner} {name : String} {node : Xml.Node}
    (h : (recordOperation owner name node).Succeeds) :
    ∃ id operation, node.text? idAttribute = some id ∧
      readOperation owner name node = .ok (id, operation) ∧ operation.owner = owner.id ∧
      (recordOperation owner name node).edits = [.addOperation id operation] := by
  unfold recordOperation at h ⊢
  obtain ⟨⟨id, operation⟩, hread, -⟩ := succeeds_bind.1 h
  obtain ⟨hid, howner⟩ := id_of_readOperation hread
  refine ⟨id, operation, hid, hread, howner, ?_⟩
  rw [edits_bind hread]
  rfl

/-! ## Members -/

theorem makesOnly_recordMember {condition : Edit → Prop} {sort : MemberSort} {owner : Owner}
    {record : String → Xml.Node → Script Unit} {node : Xml.Node}
    (hreport : condition (.report (.skippedIdMember sort owner.kind owner.name)))
    (hrecord : ∀ name, (record name node).MakesOnly condition) :
    (recordMember sort owner record node).MakesOnly condition := by
  unfold recordMember
  split
  · exact makesOnly_ofExcept _
  · split
    · exact makesOnly_edit hreport
    · exact hrecord _

/-- Members enter types from outside, fields and operations, and nothing else. -/
theorem makesOnly_recordMembers {condition : Edit → Prop} {system : TypeSystem} {owner : Owner}
    {node : Xml.Node} (hreport : ∀ notice, condition (.report notice))
    (hregister : ∀ id canonical, condition (.registerType id canonical))
    (hrefer : ∀ field id, condition (.referToType field owner.kind owner.name id))
    (hfield : ∀ id field, condition (.addField id field))
    (hoperation : ∀ id operation, condition (.addOperation id operation)) :
    (recordMembers system owner node).MakesOnly condition := by
  unfold recordMembers
  rw [List.forM_eq_forM]
  refine makesOnly_bind (makesOnly_forM fun member => ?_) fun _ => makesOnly_forM fun member => ?_
  · exact makesOnly_recordMember (hreport _) fun name =>
      makesOnly_recordField hregister (hrefer name) hfield
  · exact makesOnly_recordMember (hreport _) fun _ => makesOnly_recordOperation hoperation

/-- A member named like an id is reported; any other is recorded under its name. -/
theorem edits_recordMember {sort : MemberSort} {owner : Owner}
    {record : String → Xml.Node → Script Unit} {node : Xml.Node}
    (h : (recordMember sort owner record node).Succeeds) :
    ∃ name, node.text? "name" = some name ∧
      (isIdName name = true ∧ (recordMember sort owner record node).edits =
          [.report (.skippedIdMember sort owner.kind owner.name)] ∨
        isIdName name = false ∧ (record name node).Succeeds ∧
          (recordMember sort owner record node).edits = (record name node).edits) := by
  unfold recordMember at h ⊢
  split at h
  · simp at h
  · next name hname =>
      simp only [hname]
      by_cases hid : isIdName name = true
      · refine ⟨name, rfl, .inl ⟨hid, ?_⟩⟩
        rw [if_pos hid]
        rfl
      · rw [if_neg hid] at h
        refine ⟨name, rfl, .inr ⟨Bool.not_eq_true _ ▸ hid, h, ?_⟩⟩
        rw [if_neg hid]

/-- An element enters its attributes and then its operations. -/
theorem edits_recordMembers {system : TypeSystem} {owner : Owner} {node : Xml.Node}
    (h : (recordMembers system owner node).Succeeds) :
    (∀ member ∈ node.childrenTagged attributeTag,
      (recordMember .field owner (recordField system owner) member).Succeeds) ∧
    (∀ member ∈ node.childrenTagged operationTag,
      (recordMember .operation owner (recordOperation owner) member).Succeeds) ∧
    (recordMembers system owner node).edits =
      ((node.childrenTagged attributeTag).flatMap fun member =>
        (recordMember .field owner (recordField system owner) member).edits) ++
      (node.childrenTagged operationTag).flatMap fun member =>
        (recordMember .operation owner (recordOperation owner) member).edits := by
  unfold recordMembers at h ⊢
  rw [List.forM_eq_forM] at h ⊢
  obtain ⟨_, hfields, hoperations⟩ := succeeds_bind.1 h
  refine ⟨succeeds_forM.1 ⟨_, hfields⟩, succeeds_forM.1 hoperations, ?_⟩
  rw [edits_bind hfields, edits_forM ⟨_, hfields⟩, edits_forM hoperations]

/-! ## Classes and interfaces -/

theorem makesOnly_claimPlace {condition : Edit → Prop} {kind : EntityKind} {names : ClassName}
    {id : ElementId} (hclaim : condition (.claimUserClass id)) :
    (claimPlace kind names id).MakesOnly condition := by
  unfold claimPlace
  split
  · exact makesOnly_edit hclaim
  · exact makesOnly_pure _

theorem makesOnly_recordEntity {condition : Edit → Prop} {system : TypeSystem}
    {kind : EntityKind} {node : Xml.Node} (hreport : ∀ notice, condition (.report notice))
    (hclaim : ∀ id, condition (.claimUserClass id))
    (hregister : ∀ id canonical, condition (.registerType id canonical))
    (hrefer : ∀ field owner id, condition (.referToType field kind owner id))
    (hfield : ∀ id field, condition (.addField id field))
    (hoperation : ∀ id operation, condition (.addOperation id operation))
    (hentity : ∀ id entity, condition (.addEntity kind id entity)) :
    (recordEntity system kind node).MakesOnly condition := by
  rw [recordEntity_eq]
  refine makesOnly_bind (makesOnly_ofExcept _) fun names => ?_
  refine makesOnly_bind (makesOnly_ofExcept _) fun id => ?_
  refine makesOnly_bind (makesOnly_claimPlace (hclaim id)) fun _ => ?_
  unfold recordBody
  have hmembers : (recordMembers system (ownerOf kind names id) node).collecting.MakesOnly
      condition :=
    makesOnly_recordMembers hreport hregister (fun field => hrefer field _) hfield hoperation
  refine makesOnly_bind hmembers fun edits => ?_
  refine makesOnly_bind (makesOnly_edit (hreport _)) fun _ => ?_
  exact makesOnly_bind (makesOnly_edit (hentity id _)) fun _ => makesOnly_pure _

/-- An entity makes its claim to be the user class, enters its members, and then itself. -/
theorem edits_recordEntity {system : TypeSystem} {kind : EntityKind} {node : Xml.Node}
    (h : (recordEntity system kind node).Succeeds) :
    ∃ names id, readClassName kind node = .ok names ∧
      node.text? idAttribute = some id ∧
      (recordMembers system (ownerOf kind names id) node).Succeeds ∧
      (recordEntity system kind node).edits =
        (claimPlace kind names id).edits ++
          (recordMembers system (ownerOf kind names id) node).edits ++
          entering kind id ((entityNamed names node).withMembersOf
            (recordMembers system (ownerOf kind names id) node).edits) := by
  rw [recordEntity_eq] at h ⊢
  obtain ⟨names, hnames, h⟩ := succeeds_bind.1 h
  obtain ⟨id, hid, h⟩ := succeeds_bind.1 h
  obtain ⟨_, hclaim, h⟩ := succeeds_bind.1 h
  obtain ⟨_, hmembers⟩ := succeeds_recordBody.1 h
  have hcollecting : (recordMembers system (ownerOf kind names id) node).collecting.outcome =
      .ok (recordMembers system (ownerOf kind names id) node).edits := by
    rw [collecting, hmembers]
    rfl
  refine ⟨names, id, hnames, elementId_eq_ok_iff.1 hid, ⟨_, hmembers⟩, ?_⟩
  rw [edits_bind hnames, edits_bind hid, edits_bind hclaim, recordBody, edits_bind hcollecting,
    List.append_assoc]
  rfl

/-! ## Elements of all kinds -/

/-- An element of the kind can make the edit. -/
def Edit.Fits : ElementKind → Edit → Prop
  | .type, .registerType .. => True
  | .enumeration, .addEnumeration .. => True
  | .association, .addAssociation .. => True
  | .association, .report _ => True
  | .entity kind, .addEntity kind' _ _ => kind' = kind
  | .entity kind, .referToType _ kind' _ _ => kind' = kind
  | .entity _, .registerType .. => True
  | .entity _, .addField .. => True
  | .entity _, .addOperation .. => True
  | .entity _, .claimUserClass _ => True
  | .entity _, .report _ => True
  | _, _ => False

/-- All that an element can do to a store, by its kind. -/
theorem makesOnly_recordElement {system : TypeSystem} {kind : ElementKind} {node : Xml.Node} :
    (recordElement system kind node).MakesOnly (Edit.Fits kind) := by
  cases kind with
  | type => exact makesOnly_recordType fun _ _ => trivial
  | enumeration =>
      exact makesOnly_bind (makesOnly_recordEnumeration fun _ _ => trivial) fun _ =>
        makesOnly_pure _
  | association =>
      exact makesOnly_bind
        (makesOnly_recordAssociation (fun _ => trivial) fun _ _ => trivial) fun _ =>
          makesOnly_pure _
  | entity kind =>
      refine makesOnly_bind (makesOnly_recordEntity ?_ ?_ ?_ ?_ ?_ ?_ ?_) fun _ =>
        makesOnly_pure _
      · exact fun _ => trivial
      · exact fun _ => trivial
      · exact fun _ _ => trivial
      · exact fun _ _ _ => rfl
      · exact fun _ _ => trivial
      · exact fun _ _ => trivial
      · exact fun _ _ => rfl

/-- A script that makes no edit for a map writes nothing to it. -/
theorem written_of_makesOnly {υ α : Type} {part : StorePart υ} {script : Script α}
    (h : script.MakesOnly fun e => part.writes? e = none) : part.written script.edits = [] :=
  List.filterMap_eq_nil_iff.2 h

/-- Only elements of these kinds write to the map. -/
def StorePart.WrittenBy {υ : Type} (part : StorePart υ) (among : ElementKind → Prop) : Prop :=
  ∀ kind edit, Edit.Fits kind edit → part.writes? edit = none ∨ among kind

/-- Elements of other kinds write nothing to the map. -/
theorem flatMap_written_eq_nil {υ : Type} {part : StorePart υ} {among : ElementKind → Prop}
    (hpart : part.WrittenBy among) {system : TypeSystem} {kind : ElementKind} (hkind : ¬among kind)
    (nodes : List Xml.Node) :
    (nodes.flatMap fun node => part.written (recordElement system kind node).edits) = [] := by
  rw [List.flatMap_eq_nil_iff]
  intro node _
  apply written_of_makesOnly
  intro e he
  exact (hpart kind e (makesOnly_recordElement e he)).resolve_right hkind

/-- Types are declared by themselves, and classes and interfaces bring them from outside. -/
theorem types_writtenBy :
    StorePart.types.WrittenBy fun kind => kind = .type ∨ ∃ entity, kind = .entity entity := by
  intro kind e h
  cases e with
  | registerType id name =>
      cases kind with
      | type => exact .inr (.inl rfl)
      | entity entity => exact .inr (.inr ⟨entity, rfl⟩)
      | _ => cases h
  | _ => exact .inl rfl

theorem enumerations_writtenBy : StorePart.enumerations.WrittenBy (· = .enumeration) := by
  intro kind e h
  cases e with
  | addEnumeration id enumeration => cases kind <;> first | exact .inr rfl | cases h
  | _ => exact .inl rfl

theorem associations_writtenBy : StorePart.associations.WrittenBy (· = .association) := by
  intro kind e h
  cases e with
  | addAssociation id association => cases kind <;> first | exact .inr rfl | cases h
  | _ => exact .inl rfl

/-- Classes and interfaces are entered by the elements of their own kind only. -/
theorem entities_writtenBy (entity : EntityKind) :
    (StorePart.entities entity).WrittenBy (· = .entity entity) := by
  intro kind e h
  cases e with
  | addEntity other id value =>
      cases kind with
      | entity kind =>
          by_cases hkind : other = entity
          · exact .inr (congrArg ElementKind.entity (h.symm.trans hkind))
          · exact .inl (if_neg hkind)
      | _ => cases h
  | _ => exact .inl rfl

theorem edits_recordElement_enumeration {system : TypeSystem} {node : Xml.Node}
    (h : (recordElement system .enumeration node).Succeeds) :
    ∃ id enumeration, node.text? idAttribute = some id ∧
      readEnumeration node = .ok (id, enumeration) ∧
      (recordElement system .enumeration node).edits = [.addEnumeration id enumeration] := by
  rw [recordElement, edits_discard]
  exact edits_recordEnumeration (succeeds_discard.1 h)

theorem edits_recordElement_association {system : TypeSystem} {node : Xml.Node}
    (h : (recordElement system .association node).Succeeds) :
    ∃ id association, node.text? idAttribute = some id ∧
      readAssociation node = .ok (id, association) ∧
      (recordElement system .association node).edits = [.report (.builtAssociation id
        association.source association.target association.cardinality),
        .addAssociation id association] := by
  rw [recordElement, edits_discard]
  exact edits_recordAssociation (succeeds_discard.1 h)

theorem edits_recordElement_entity {system : TypeSystem} {kind : EntityKind} {node : Xml.Node}
    (h : (recordElement system (.entity kind) node).Succeeds) :
    ∃ names id, readClassName kind node = .ok names ∧
      node.text? idAttribute = some id ∧
      (recordMembers system (ownerOf kind names id) node).Succeeds ∧
      (recordElement system (.entity kind) node).edits =
        (claimPlace kind names id).edits ++
          (recordMembers system (ownerOf kind names id) node).edits ++
          entering kind id ((entityNamed names node).withMembersOf
            (recordMembers system (ownerOf kind names id) node).edits) := by
  rw [recordElement, edits_discard]
  exact edits_recordEntity (succeeds_discard.1 h)

/-! ## Whole models -/

/-- A stage makes the edits of its elements in document order and reports its end. -/
theorem edits_recordStage {system : TypeSystem} {packages : Packages} {kind : ElementKind}
    (h : (recordStage system packages kind).Succeeds) :
    (recordStage system packages kind).edits =
      ((packages.select kind).flatMap fun node => (recordElement system kind node).edits) ++
        [.report (.stageDone kind)] := by
  unfold recordStage at h ⊢
  rw [List.forM_eq_forM] at h ⊢
  obtain ⟨_, helements, -⟩ := succeeds_bind.1 h
  rw [edits_bind helements, edits_forM ⟨_, helements⟩]
  rfl

/-- What is reported of a model before its elements are read. -/
def Packages.reports (packages : Packages) : List Notice :=
  packages.skipped ++ [.classified packages.recognised packages.elements.length]

theorem edits_reportSkipped (packages : Packages) :
    packages.reportSkipped.edits = packages.skipped.map Edit.report := by
  have hsucceeds : (forM packages.skipped report).Succeeds :=
    succeeds_forM.2 fun notice _ => succeeds_report notice
  exact (edits_forM hsucceeds).trans List.map_eq_flatMap.symm

/-- A model is reported on and then makes the edits of its stages. -/
theorem edits_recordPackages {system : TypeSystem} {packages : Packages}
    (h : (recordPackages system packages).Succeeds) :
    (∀ kind, (recordStage system packages kind).Succeeds) ∧
    (recordPackages system packages).edits =
      packages.reports.map Edit.report ++ ElementKind.stages.flatMap fun kind =>
        (recordStage system packages kind).edits := by
  unfold recordPackages at h ⊢
  obtain ⟨_, hskipped, h⟩ := succeeds_bind.1 h
  obtain ⟨_, hclassified, h⟩ := succeeds_bind.1 h
  rw [List.forM_eq_forM] at h ⊢
  refine ⟨fun kind => succeeds_forM.1 h kind (ElementKind.mem_stages kind), ?_⟩
  rw [edits_bind hskipped, edits_bind hclassified, edits_forM h, edits_reportSkipped,
    ← List.append_assoc, Packages.reports, List.map_append]
  rfl

/-- Reports write nothing. -/
theorem StorePart.written_map_report {υ : Type} (part : StorePart υ) (notices : List Notice) :
    part.written (notices.map Edit.report) = [] := by
  rw [StorePart.written, List.filterMap_map, List.filterMap_eq_nil_iff]
  exact fun notice _ => part.writes?_report notice

/-- A model writes the entries of its elements, stage by stage. -/
theorem written_recordPackages {υ : Type} (part : StorePart υ) {system : TypeSystem}
    {packages : Packages} (h : (recordPackages system packages).Succeeds) :
    part.written (recordPackages system packages).edits =
      ElementKind.stages.flatMap fun kind => (packages.select kind).flatMap fun node =>
        part.written (recordElement system kind node).edits := by
  obtain ⟨hstages, hedits⟩ := edits_recordPackages h
  rw [hedits, StorePart.written_append, StorePart.written_map_report, List.nil_append,
    StorePart.written_flatMap]
  apply List.flatMap_congr
  intro kind _
  rw [edits_recordStage (hstages kind), StorePart.written_append,
    StorePart.written_flatMap, StorePart.written_report, StorePart.written_nil, List.append_nil]

end ClassDiagram
