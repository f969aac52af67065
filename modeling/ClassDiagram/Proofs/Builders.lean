import ClassDiagram.Diagram
import ClassDiagram.Proofs.Entity
import ClassDiagram.Proofs.Spelling

/-!
# What builders do

A builder has the store before it: it looks up whether a type is known and whether
there is a user class, and it could end in one way or another for what it finds.  A
script has been written without any store.  That a builder makes the edits of a script,
reports what they report and ends as the script does (`buildEntity_eq`,
`run_buildMembers`, `buildPackages_eq`) therefore says that what it finds makes a
difference to nothing but its reports.

`Script.replay` is the builder that makes the edits of a script one by one.  It takes
sequences to sequences (`replay_bind`, `replay_forM`), so there is one lemma for each
builder, which follows its definition.
-/

namespace ClassDiagram

open Script

variable {σ α β : Type}

/-! ## Making edits -/

namespace Edit

/-- Makes an edit to a store and reports what it reports. -/
def onStore (edit : Edit) (logged : Logged Store) : Logged Store where
  state := edit.apply logged.state
  notices := logged.notices ++ edit.notices logged.state

/-- Makes an edit to the store of a draft, and adds the member that it adds to the entity. -/
def onDraft (edit : Edit) (logged : Logged Draft) : Logged Draft where
  state := ⟨logged.state.entity.withMembersOf [edit], edit.apply logged.state.store⟩
  notices := logged.notices ++ edit.notices logged.state.store

/-- The edit adds no member to an entity. -/
def AddsNoMember (edit : Edit) : Prop := edit.fieldId? = none ∧ edit.operationId? = none

theorem foldl_onStore (edits : List Edit) (logged : Logged Store) :
    edits.foldl (fun logged edit => edit.onStore logged) logged =
      ⟨applyAll edits logged.state, logged.notices ++ noticesOfAll edits logged.state⟩ := by
  induction edits generalizing logged with
  | nil => simp [noticesOfAll]
  | cons edit edits ih =>
      rw [List.foldl_cons, ih]
      simp [onStore, noticesOfAll]

end Edit

theorem Entity.withMembersOf_append (entity : Entity) (edits edits' : List Edit) :
    entity.withMembersOf (edits ++ edits') = (entity.withMembersOf edits).withMembersOf edits' := by
  simp [withMembersOf, addMembers]

/-- Edits that add no member leave an entity as it is. -/
theorem Entity.withMembersOf_of_forall (entity : Entity) {edits : List Edit}
    (h : ∀ edit ∈ edits, edit.AddsNoMember) : entity.withMembersOf edits = entity := by
  have hfields : edits.filterMap Edit.fieldId? = [] :=
    List.filterMap_eq_nil_iff.2 fun edit hedit => (h edit hedit).1
  have hoperations : edits.filterMap Edit.operationId? = [] :=
    List.filterMap_eq_nil_iff.2 fun edit hedit => (h edit hedit).2
  simp [withMembersOf, addMembers, hfields, hoperations]

theorem Edit.foldl_onDraft (edits : List Edit) (logged : Logged Draft) :
    edits.foldl (fun logged edit => edit.onDraft logged) logged =
      ⟨⟨logged.state.entity.withMembersOf edits, applyAll edits logged.state.store⟩,
        logged.notices ++ noticesOfAll edits logged.state.store⟩ := by
  induction edits generalizing logged with
  | nil => simp [noticesOfAll, Entity.withMembersOf_of_forall]
  | cons edit edits ih =>
      rw [List.foldl_cons, ih, ← List.singleton_append, Entity.withMembersOf_append]
      simp [onDraft, noticesOfAll]

/-! ## Making the edits of a script -/

/-- A sequence goes on from the state and the reports that its first part leaves. -/
theorem Builder.bind_apply (builder : Builder σ α) (next : α → Builder σ β) (logged : Logged σ) :
    (builder >>= next) logged =
      match builder logged with
      | (.ok result, after) => next result after
      | (.error fault, after) => (.error fault, after) := by
  show ExceptT.bindCont next (builder logged).1 (builder logged).2 = _
  rcases builder logged with ⟨_ | _, _⟩ <;> rfl

namespace Script

/-- Makes the edits of a script one after the other, each with `make`. -/
def replay (make : Edit → Logged σ → Logged σ) (script : Script α) : Builder σ α := fun logged =>
  (script.outcome, script.edits.foldl (fun logged edit => make edit logged) logged)

variable {make : Edit → Logged σ → Logged σ}

theorem replay_pure (result : α) : (pure result : Script α).replay make = pure result := rfl

theorem replay_ofExcept (outcome : Except Fault α) :
    (ofExcept outcome).replay make = MonadExcept.ofExcept outcome := by
  cases outcome <;> rfl

theorem replay_bind (script : Script α) (next : α → Script β) :
    (script >>= next).replay make = script.replay make >>= fun result =>
      (next result).replay make := by
  funext logged
  rw [Builder.bind_apply]
  cases h : script.outcome with
  | error fault => simp only [bind_of_error h, replay, h]
  | ok result => simp only [bind_of_ok h, replay, h, List.foldl_append]

theorem replay_report (notice : Notice) :
    (report notice).replay Edit.onStore = Builder.report notice := rfl

theorem replay_report_onDraft (notice : Notice) :
    (report notice).replay Edit.onDraft = Builder.report notice := by
  funext logged
  have hentity : logged.state.entity.withMembersOf [.report notice] = logged.state.entity :=
    logged.state.entity.withMembersOf_of_forall (by simp [Edit.AddsNoMember, Edit.fieldId?,
      Edit.operationId?])
  exact congrArg (fun entity => (Except.ok (), Logged.mk (Draft.mk entity logged.state.store)
    (logged.notices ++ [notice]))) hentity

/-- An edit that is not reported is a change. -/
theorem replay_edit {e : Edit} (h : ∀ store, e.notices store = []) :
    (edit e).replay Edit.onStore = Builder.change e.apply := by
  funext logged
  have hnotices : (e.onStore logged).notices = logged.notices := by simp [Edit.onStore, h]
  exact congrArg (fun notices => (Except.ok (), Logged.mk (e.apply logged.state) notices)) hnotices

/-- An edit of a draft that is not reported is a change. -/
theorem replay_edit_onDraft {e : Edit} (h : ∀ store, e.notices store = []) :
    (edit e).replay Edit.onDraft =
      Builder.change fun draft => ⟨draft.entity.withMembersOf [e], e.apply draft.store⟩ := by
  funext logged
  have hnotices : (e.onDraft logged).notices = logged.notices := by simp [Edit.onDraft, h]
  exact congrArg
    (fun notices => (Except.ok (), Logged.mk (e.onDraft logged).state notices)) hnotices

/-- Over a list, the edits of all scripts are made in turn. -/
theorem replay_forM {record : α → Script PUnit} {build : α → Builder σ PUnit}
    (h : ∀ item, build item = (record item).replay make) (items : List α) :
    items.forM build = (items.forM record).replay make := by
  induction items with
  | nil => rfl
  | cons item items ih =>
      rw [List.forM_eq_forM, List.forM_eq_forM] at ih ⊢
      rw [List.forM_cons, List.forM_cons, replay_bind, h, ih]

/-- On a store, a script is replayed as it is run. -/
theorem run_replay (script : Script α) (store : Store) :
    (script.replay Edit.onStore).run store = script.run store := by
  rw [Builder.run, replay, Edit.foldl_onStore]
  rfl

/-- On a draft, the entity gets the members that the edits add. -/
theorem run_replay_onDraft (script : Script α) (draft : Draft) :
    (script.replay Edit.onDraft).run draft =
      ⟨script.outcome,
        ⟨draft.entity.withMembersOf script.edits, Edit.applyAll script.edits draft.store⟩,
        Edit.noticesOfAll script.edits draft.store⟩ := by
  rw [Builder.run, replay, Edit.foldl_onDraft]
  rfl

/-- A script that adds no member does the same to a draft as to its store. -/
theorem onStore_replay {script : Script α} (h : script.MakesOnly Edit.AddsNoMember) :
    Builder.onStore (script.replay Edit.onStore) = script.replay Edit.onDraft := by
  funext logged
  rw [Builder.onStore, replay, replay, Edit.foldl_onStore, Edit.foldl_onDraft,
    Entity.withMembersOf_of_forall _ h]

/-- An entity that is drafted gets the members that the edits of a script add. -/
theorem drafting_replay (entity : Entity) (script : Script Unit) :
    Builder.drafting entity (script.replay Edit.onDraft) =
      (entity.withMembersOf <$> script.collecting).replay Edit.onStore := by
  funext logged
  rw [Builder.drafting, replay, replay, Edit.foldl_onDraft, map_eq_pure_bind]
  cases h : script.outcome with
  | error fault =>
      rw [bind_of_error (collecting_eq_error_iff.2 h), Edit.foldl_onStore]
      rfl
  | ok result =>
      have hcollecting : script.collecting.outcome = .ok script.edits := by
        simp [collecting, h, Except.map]
      rw [bind_of_ok hcollecting, Edit.foldl_onStore]
      simp [collecting, Except.map]

end Script

/-! ## Types, enumerations and associations -/

theorem enterType_eq (system : TypeSystem) (name : String) (id : ElementId) :
    enterType system name id = (registerType system name id).replay Edit.onStore := by
  simp only [registerType, replay_bind, replay_ofExcept, replay_pure]
  rfl

theorem buildType_eq (system : TypeSystem) (node : Xml.Node) :
    buildType system node = (recordType system node).replay Edit.onStore := by
  simp only [recordType, replay_bind, replay_ofExcept, replay_pure, ← enterType_eq]
  rfl

theorem buildEnumeration_eq (node : Xml.Node) :
    buildEnumeration node = (recordEnumeration node).replay Edit.onStore := by
  simp only [recordEnumeration, replay_bind, replay_ofExcept, replay_pure,
    replay_edit (e := .addEnumeration _ _) fun _ => rfl]
  rfl

theorem buildAssociation_eq (node : Xml.Node) :
    buildAssociation node = (recordAssociation node).replay Edit.onStore := by
  simp only [recordAssociation, replay_bind, replay_ofExcept, replay_pure, replay_report,
    replay_edit (e := .addAssociation _ _) fun _ => rfl]
  rfl

/-! ## Members -/

/-- A type is looked for in the store, and nothing but the report tells what was found. -/
theorem reportUnknownType_eq (owner : Owner) (name : String) (type : ElementId) :
    reportUnknownType owner name type =
      (edit (.referToType name owner.kind owner.name type)).replay Edit.onStore := by
  funext logged
  have hlook : Builder.look (·.knowsType type) logged =
      (.ok (logged.state.knowsType type), logged) := rfl
  have hreplay : (edit (.referToType name owner.kind owner.name type)).replay Edit.onStore logged =
      (.ok (), ⟨logged.state, logged.notices ++ if logged.state.knowsType type then []
        else [.unknownType name owner.kind owner.name type]⟩) := rfl
  rw [hreplay, reportUnknownType, Builder.bind_apply, hlook]
  cases logged.state.knowsType type with
  | true => rw [if_pos rfl, List.append_nil]; rfl
  | false => rfl

/-- The spelling of a type from outside is its own spelling. -/
theorem buildFieldType_eq (system : TypeSystem) (owner : Owner) (name : String)
    (node : Xml.Node) :
    buildFieldType system owner name node =
      (fieldType system owner name node).replay Edit.onStore := by
  unfold buildFieldType fieldType
  match TypeSource.ofNode? node with
  | none => exact (replay_ofExcept _).symm
  | some (.inside id) =>
      simp only [replay_bind, replay_pure, reportUnknownType_eq]
  | some (.outside typeName) =>
      simp only [replay_bind, replay_ofExcept, ← enterType_eq]
      cases hspelled : system.canonicalize typeName with
      | error fault => rfl
      | ok canonical =>
          have hself : system.canonicalize canonical = .ok canonical :=
            canonicalize_of_canonical? (canonical?_canonical (canonical?_of_canonicalize hspelled))
          show (do let _ ← enterType system canonical canonical; pure canonical) =
            enterType system canonical canonical
          rw [enterType, hself]
          rfl

/-- Before an attribute is added as a field, nothing is added to its entity. -/
theorem addsNoMember_fieldType (system : TypeSystem) (owner : Owner) (name : String)
    (node : Xml.Node) : (fieldType system owner name node).MakesOnly Edit.AddsNoMember := by
  unfold fieldType
  match TypeSource.ofNode? node with
  | none => exact makesOnly_ofExcept _
  | some (.inside id) => exact makesOnly_bind (makesOnly_edit ⟨rfl, rfl⟩) fun _ => makesOnly_pure _
  | some (.outside typeName) =>
      exact makesOnly_bind (makesOnly_ofExcept _) fun _ => makesOnly_bind (makesOnly_ofExcept _)
        fun _ => makesOnly_bind (makesOnly_edit ⟨rfl, rfl⟩) fun _ => makesOnly_pure _

/-- What `buildField` does. -/
def fieldOf (system : TypeSystem) (owner : Owner) (name : String) (node : Xml.Node) :
    Script (ElementId × Field) := do
  let type ← fieldType system owner name node
  let id ← Script.ofExcept (elementId node)
  return (id, ⟨Text.lowerFirst name, type, comment? node, owner.id⟩)

theorem buildField_eq (system : TypeSystem) (owner : Owner) (name : String) (node : Xml.Node) :
    buildField system owner name node =
      (fieldOf system owner name node).replay Edit.onStore := by
  simp only [fieldOf, replay_bind, replay_ofExcept, replay_pure, ← buildFieldType_eq]
  rfl

theorem buildAttribute_eq (system : TypeSystem) (owner : Owner) (name : String)
    (node : Xml.Node) :
    buildAttribute system owner name node =
      (recordField system owner name node).replay Edit.onDraft := by
  have hmembers : (fieldOf system owner name node).MakesOnly Edit.AddsNoMember :=
    makesOnly_bind (addsNoMember_fieldType system owner name node) fun _ =>
      makesOnly_bind (makesOnly_ofExcept _) fun _ => makesOnly_pure _
  have hrecord : recordField system owner name node =
      fieldOf system owner name node >>= fun entry => edit (.addField entry.1 entry.2) := by
    simp only [fieldOf, recordField, bind_assoc, pure_bind]
  rw [buildAttribute, buildField_eq, onStore_replay hmembers, hrecord, replay_bind]
  simp only [replay_edit_onDraft (e := .addField _ _) fun _ => rfl]
  rfl

theorem buildOperation_eq (owner : Owner) (name : String) (node : Xml.Node) :
    buildOperation owner name node = (recordOperation owner name node).replay Edit.onDraft := by
  simp only [recordOperation, replay_bind, replay_ofExcept,
    replay_edit_onDraft (e := .addOperation _ _) fun _ => rfl]
  rfl

theorem buildMember_eq {build : String → Xml.Node → Builder Draft Unit}
    {record : String → Xml.Node → Script Unit}
    (h : ∀ name node, build name node = (record name node).replay Edit.onDraft)
    (sort : MemberSort) (owner : Owner) (node : Xml.Node) :
    buildMember sort owner build node =
      (recordMember sort owner record node).replay Edit.onDraft := by
  unfold buildMember recordMember
  match node.text? "name" with
  | none => exact (replay_ofExcept _).symm
  | some name =>
      by_cases hid : isIdName name = true
      · simp only [hid, if_true, replay_report_onDraft]
      · simp only [hid, h]
        rfl

theorem buildMembers_eq (system : TypeSystem) (owner : Owner) (node : Xml.Node) :
    buildMembers system owner node = (recordMembers system owner node).replay Edit.onDraft := by
  rw [buildMembers, recordMembers, replay_bind,
    replay_forM (buildMember_eq (buildAttribute_eq system owner) .field owner),
    replay_forM (buildMember_eq (buildOperation_eq owner) .operation owner)]

/-- Members are added to the store and to the entity as the script says. -/
theorem run_buildMembers (system : TypeSystem) (owner : Owner) (node : Xml.Node)
    (draft : Draft) :
    (buildMembers system owner node).run draft =
      ⟨(recordMembers system owner node).outcome,
        ⟨draft.entity.withMembersOf (recordMembers system owner node).edits,
          Edit.applyAll (recordMembers system owner node).edits draft.store⟩,
        Edit.noticesOfAll (recordMembers system owner node).edits draft.store⟩ := by
  rw [buildMembers_eq, run_replay_onDraft]

/-! ## Classes and interfaces -/

theorem takeIfUserClass_eq (kind : EntityKind) (names : ClassName) (id : ElementId) :
    takeIfUserClass kind names id = (claimPlace kind names id).replay Edit.onStore := by
  unfold takeIfUserClass claimPlace
  by_cases huser : isUserClass kind names = true
  · rw [if_pos huser, if_pos huser]
    funext logged
    have htake : takeUserClass id logged = (.ok logged.state.userClass.isNone,
        ⟨logged.state.claimUserClass id, logged.notices⟩) := rfl
    have hreplay : (edit (.claimUserClass id)).replay Edit.onStore logged =
        (.ok (), ⟨logged.state.claimUserClass id,
          logged.notices ++ if logged.state.userClass.isNone then [.userClass id] else []⟩) := rfl
    rw [hreplay, Builder.bind_apply, htake]
    cases logged.state.userClass.isNone with
    | true => rfl
    | false =>
        rw [if_neg Bool.false_ne_true, List.append_nil]
        rfl
  · rw [if_neg huser, if_neg huser, replay_pure]

/-- The entity is drafted as the edits of its members say. -/
theorem buildEntity_eq (system : TypeSystem) (kind : EntityKind) (node : Xml.Node) :
    buildEntity system kind node =
      (recordEntity system kind node).replay Edit.onStore := by
  rw [recordEntity_eq]
  unfold recordBody
  simp only [replay_bind, replay_ofExcept, ← takeIfUserClass_eq, replay_report, replay_pure,
    replay_edit (e := .addEntity _ _ _) fun _ => rfl]
  unfold buildEntity
  simp only [buildMembers_eq, drafting_replay, map_eq_pure_bind, replay_bind, replay_pure,
    bind_assoc, pure_bind]
  rfl

/-! ## Stages and models -/

theorem reportAllSkipped_eq (packages : Packages) :
    packages.reportAllSkipped = packages.reportSkipped.replay Edit.onStore :=
  replay_forM (fun notice => (replay_report notice).symm) packages.skipped

theorem buildElement_eq (system : TypeSystem) (kind : ElementKind) (node : Xml.Node) :
    buildElement system kind node = (recordElement system kind node).replay Edit.onStore := by
  cases kind with
  | type => exact buildType_eq system node
  | enumeration => rw [buildElement, recordElement, replay_bind, ← buildEnumeration_eq]; rfl
  | entity kind => rw [buildElement, recordElement, replay_bind, ← buildEntity_eq]; rfl
  | association => rw [buildElement, recordElement, replay_bind, ← buildAssociation_eq]; rfl

theorem buildStage_eq (system : TypeSystem) (packages : Packages) (kind : ElementKind) :
    buildStage system packages kind =
      (recordStage system packages kind).replay Edit.onStore := by
  rw [buildStage, recordStage, replay_bind, replay_forM (buildElement_eq system kind)]
  rfl

theorem buildPackages_eq (system : TypeSystem) (packages : Packages) :
    buildPackages system packages = (recordPackages system packages).replay Edit.onStore := by
  simp only [recordPackages, replay_bind, replay_report, ← reportAllSkipped_eq,
    ← replay_forM (buildStage_eq system packages)]
  rfl

theorem buildModelStage_eq (system : TypeSystem) (model : Xml.Node) (kind : ElementKind) :
    buildModelStage system model kind =
      (recordModelStage system model kind).replay Edit.onStore := by
  simp only [recordModelStage, replay_bind, ← reportAllSkipped_eq, ← buildStage_eq]
  rfl

/-- A model is read into a store as the script says, and with the same reports. -/
theorem readModel_eq_run (system : TypeSystem) (model : Xml.Node) :
    readModel system model =
      ⟨((recordPackages system (Packages.ofModel model)).run Store.empty).finished,
        ((recordPackages system (Packages.ofModel model)).run Store.empty).notices⟩ := by
  rw [readModel, buildPackages_eq, run_replay]

end ClassDiagram
