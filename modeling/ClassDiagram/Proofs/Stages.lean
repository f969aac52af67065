import ClassDiagram.Proofs.Membership

/-!
# A model is its elements, stage by stage

Scripts are `Alike` if they come to the same result and do the same to every store;
what they report may differ.  Reports can therefore be left out, and with them all that
is said of elements that are passed over: a model comes to what its elements come to,
one stage after the other (`readModel_eq_recordElements`).  `modelEdits` lists the edits
of all elements in this order; they make the store of a model that is accepted
(`readModel_eq_ok_iff_modelEdits`).
-/

namespace ClassDiagram

open Script

variable {α β : Type}

namespace Script

/-- The scripts come to the same result and do the same to every store. -/
structure Alike (script script' : Script α) : Prop where
  outcome : script.outcome = script'.outcome
  applyAll : ∀ store, Edit.applyAll script.edits store = Edit.applyAll script'.edits store

theorem Alike.refl (script : Script α) : Alike script script := ⟨rfl, fun _ => rfl⟩

theorem Alike.trans {script script' script'' : Script α} (h : Alike script script')
    (h' : Alike script' script'') : Alike script script'' :=
  ⟨h.outcome.trans h'.outcome, fun store => (h.applyAll store).trans (h'.applyAll store)⟩

/-- Sequences are alike if their parts are. -/
theorem alike_bind {script script' : Script α} {next next' : α → Script β}
    (h : Alike script script') (hnext : ∀ result, Alike (next result) (next' result)) :
    Alike (script >>= next) (script' >>= next') := by
  cases houtcome : script.outcome with
  | error fault =>
      rw [bind_of_error houtcome, bind_of_error (h.outcome ▸ houtcome)]
      exact ⟨rfl, h.applyAll⟩
  | ok result =>
      rw [bind_of_ok houtcome, bind_of_ok (h.outcome ▸ houtcome)]
      refine ⟨(hnext result).outcome, fun store => ?_⟩
      rw [Edit.applyAll_append, Edit.applyAll_append, h.applyAll, (hnext result).applyAll]

/-- Scripts over a list are alike if they are for every member. -/
theorem alike_forM {step step' : α → Script PUnit} (h : ∀ item, Alike (step item) (step' item))
    (items : List α) : Alike (forM items step) (forM items step') := by
  induction items with
  | nil => exact .refl _
  | cons item items ih =>
      rw [List.forM_cons, List.forM_cons]
      exact alike_bind (h item) fun _ => ih

/-- A report by itself does nothing. -/
theorem alike_report (notice : Notice) : Alike (report notice) (pure ()) := ⟨rfl, fun _ => rfl⟩

theorem alike_forM_report (notices : List Notice) : Alike (forM notices report) (pure ()) := by
  induction notices with
  | nil => exact .refl _
  | cons notice notices ih =>
      rw [List.forM_cons]
      exact alike_bind (alike_report notice) fun _ => ih

/-- Scripts that are alike finish in the same way. -/
theorem Alike.finished_run {script script' : Script α} (h : Alike script script')
    (store : Store) : (script.run store).finished = (script'.run store).finished := by
  rw [Run.finished, Run.finished, run, run, h.outcome, h.applyAll]

end Script

/-- Enters the elements of a model, stage by stage, and reports nothing but what they report. -/
def recordElements (system : TypeSystem) (model : Xml.Node) : Script Unit :=
  ElementKind.stages.forM fun kind => (elementsOf kind model).forM (recordElement system kind)

theorem alike_recordStage (system : TypeSystem) (model : Xml.Node) (kind : ElementKind) :
    Alike (recordStage system (Packages.ofModel model) kind)
      ((elementsOf kind model).forM (recordElement system kind)) := by
  have hselect : (Packages.ofModel model).select kind = elementsOf kind model :=
    Packages.select_eq_filter _ kind
  have hend := alike_bind (.refl (forM (elementsOf kind model) (recordElement system kind)))
    fun _ => alike_report (.stageDone kind)
  rw [bind_pure_unit] at hend
  rw [recordStage, hselect]
  exact hend

/-- Nothing but reports comes before the stages. -/
theorem alike_forM_recordStage (system : TypeSystem) (packages : Packages) :
    Alike (recordPackages system packages)
      (ElementKind.stages.forM (recordStage system packages)) := by
  have hskipped := alike_forM_report packages.skipped
  have hclassified := alike_report (.classified packages.recognised packages.elements.length)
  have hall := alike_bind hskipped fun _ => alike_bind hclassified fun _ =>
    .refl (ElementKind.stages.forM (recordStage system packages))
  rw [pure_bind, pure_bind] at hall
  exact hall

theorem alike_recordPackages (system : TypeSystem) (model : Xml.Node) :
    Alike (recordPackages system (Packages.ofModel model)) (recordElements system model) :=
  (alike_forM_recordStage system _).trans
    (alike_forM (alike_recordStage system model) ElementKind.stages)

/-- A model comes to what its elements come to. -/
theorem readModel_eq_recordElements (system : TypeSystem) (model : Xml.Node) :
    (readModel system model).result =
      ((recordElements system model).run Store.empty).finished := by
  rw [readModel_eq_run]
  exact (alike_recordPackages system model).finished_run Store.empty

/-! ## All edits of a model -/

/-- The edits that the elements of a model make, stage by stage and in document order. -/
def modelEdits (system : TypeSystem) (model : Xml.Node) : List Edit :=
  ElementKind.stages.flatMap fun kind => (elementsOf kind model).flatMap fun node =>
    (recordElement system kind node).edits

theorem succeeds_recordElements {system : TypeSystem} {model : Xml.Node} :
    (recordElements system model).Succeeds ↔
      ∀ kind, ∀ node ∈ elementsOf kind model, (recordElement system kind node).Succeeds := by
  unfold recordElements
  rw [List.forM_eq_forM, succeeds_forM]
  simp only [List.forM_eq_forM, succeeds_forM, ElementKind.mem_stages, forall_const]

theorem edits_recordElements {system : TypeSystem} {model : Xml.Node}
    (h : (recordElements system model).Succeeds) :
    (recordElements system model).edits = modelEdits system model := by
  have hstages : (forM ElementKind.stages fun kind =>
      forM (elementsOf kind model) (recordElement system kind)).Succeeds := h
  refine (edits_forM hstages).trans (List.flatMap_congr fun kind hkind => ?_)
  exact edits_forM (succeeds_forM.1 hstages kind hkind)

/-- A model is read if each of its elements is, into the store that all their edits make. -/
theorem readModel_eq_ok_iff_modelEdits {system : TypeSystem} {model : Xml.Node} {store : Store} :
    (readModel system model).result = .ok store ↔
      (∀ kind, ∀ node ∈ elementsOf kind model, (recordElement system kind node).Succeeds) ∧
        Edit.applyAll (modelEdits system model) Store.empty = store := by
  rw [readModel_eq_recordElements, finished_run_eq_ok_iff, succeeds_recordElements]
  refine and_congr_right fun h => ?_
  rw [edits_recordElements (succeeds_recordElements.2 h)]

theorem exists_readModel_eq_ok_iff {system : TypeSystem} {model : Xml.Node} :
    (∃ store, (readModel system model).result = .ok store) ↔
      ∀ kind, ∀ node ∈ elementsOf kind model, (recordElement system kind node).Succeeds := by
  simp only [readModel_eq_ok_iff_modelEdits, exists_and_left, exists_eq', and_true]

end ClassDiagram
