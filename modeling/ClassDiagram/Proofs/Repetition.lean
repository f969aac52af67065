import ClassDiagram.Proofs.Types
import ClassDiagram.Proofs.UserClass

/-!
# Running stages again

What a script writes does not depend on the store it is run on, and to write the same a
second time changes nothing (`applyAll_applyAll_self`): under each id the last value
written counts, and it is the same value both times, even if other elements or other stages
wrote there before.  A script that has been run on a store therefore leaves the store as it
is when it is run again (`finished_run_again`).

`runStages` runs some stages one after the other, each on the store that the one before has
left.  To read a model is to run all of them on the empty store
(`readModel_eq_runStages`).
-/

namespace ClassDiagram

open Script

/-! ## Edits and scripts that are repeated -/

/-- To make the same edits again changes nothing. -/
theorem applyAll_applyAll_self (edits : List Edit) (store : Store) :
    Edit.applyAll edits (Edit.applyAll edits store) = Edit.applyAll edits store := by
  apply StorePart.store_eq
  · intro υ part
    rw [part.map_applyAll, part.map_applyAll, OrderedMap.insertAll_insertAll_self]
  · rw [userClass_applyAll, userClass_applyAll, Option.or_assoc, Option.or_self]

/-- A script that succeeds leaves the store that it has made as it is when it is run again. -/
theorem finished_run_again {α : Type} {script : Script α} {store store' : Store}
    (h : (script.run store).finished = .ok store') :
    (script.run store').finished = .ok store' := by
  obtain ⟨hsucceeds, rfl⟩ := finished_run_eq_ok_iff.1 h
  exact finished_run_eq_ok_iff.2 ⟨hsucceeds, applyAll_applyAll_self _ _⟩

/-! ## Stages -/

/-- The store after one stage. -/
def runStage (system : TypeSystem) (packages : Packages) (kind : ElementKind) (store : Store) :
    Except Fault Store :=
  ((buildStage system packages kind).run store).finished

/-- The store after some stages, each run on the store that the one before has left. -/
def runStages (system : TypeSystem) (packages : Packages) (kinds : List ElementKind)
    (store : Store) : Except Fault Store :=
  kinds.foldlM (fun store kind => runStage system packages kind store) store

/-- A sequence finishes as its second part does on the store that its first part leaves. -/
theorem finished_run_bind {α : Type} (script : Script Unit) (next : Unit → Script α)
    (store : Store) :
    ((script >>= next).run store).finished =
      (script.run store).finished >>= fun store' => ((next ()).run store').finished := by
  cases h : script.outcome with
  | ok result =>
      rw [bind_of_ok h]
      simp only [Run.finished, run, Edit.applyAll_append, h]
      rfl
  | error fault =>
      rw [bind_of_error h]
      simp only [Run.finished, run, h]
      rfl

/-- A stage finishes as its script does. -/
theorem runStage_eq (system : TypeSystem) (packages : Packages) (kind : ElementKind)
    (store : Store) :
    runStage system packages kind store =
      ((recordStage system packages kind).run store).finished := by
  rw [runStage, buildStage_eq, run_replay]

/-- Stages that are run on the store one after the other finish as the script of all of them. -/
theorem runStages_eq_finished_run (system : TypeSystem) (packages : Packages)
    (kinds : List ElementKind) (store : Store) :
    runStages system packages kinds store =
      ((kinds.forM (recordStage system packages)).run store).finished := by
  rw [List.forM_eq_forM]
  induction kinds generalizing store with
  | nil => rfl
  | cons kind kinds ih =>
      rw [List.forM_cons, finished_run_bind, runStages, List.foldlM_cons, runStage_eq]
      exact bind_congr fun store' => ih store'

/-- To read a model is to run all stages, beginning with the empty store. -/
theorem readModel_eq_runStages (system : TypeSystem) (model : Xml.Node) :
    (readModel system model).result =
      runStages system (Packages.ofModel model) ElementKind.stages Store.empty := by
  rw [runStages_eq_finished_run, readModel_eq_run]
  exact (alike_forM_recordStage system _).finished_run Store.empty

/-! ## Stages that are run again -/

/-- A stage that is run again, on the store that it has made, succeeds and leaves the store as it
is.  So do all stages together, from whatever store they were run first, and in particular on the
store of a model. -/
theorem stages_again (system : TypeSystem) (model : Xml.Node) :
    (∀ kind store store',
      runStage system (Packages.ofModel model) kind store = .ok store' →
        runStage system (Packages.ofModel model) kind store' = .ok store') ∧
    (∀ store store',
      runStages system (Packages.ofModel model) ElementKind.stages store = .ok store' →
        runStages system (Packages.ofModel model) ElementKind.stages store' = .ok store') ∧
    ∀ store, (readModel system model).result = .ok store →
      runStages system (Packages.ofModel model) ElementKind.stages store = .ok store := by
  have hall : ∀ store store',
      runStages system (Packages.ofModel model) ElementKind.stages store = .ok store' →
        runStages system (Packages.ofModel model) ElementKind.stages store' = .ok store' := by
    intro store store' h
    rw [runStages_eq_finished_run] at h ⊢
    exact finished_run_again h
  refine ⟨fun kind store store' h => ?_, hall, fun store h => ?_⟩
  · rw [runStage_eq] at h ⊢
    exact finished_run_again h
  · rw [readModel_eq_runStages] at h
    exact hall _ _ h

/-- A store that has an integer where the label model puts a text, and a user class. -/
def usedStore : Store :=
  (Store.empty.addType "String" ⟨"Integer"⟩).claimUserClass "u"

/-- The stages of the label model write to one type twice, and to a store that has a type there
before; running them again changes nothing. -/
theorem stages_again_label :
    ∃ store, runStages .sql (Packages.ofModel (labelModel "String" "Long")) ElementKind.stages
        usedStore = .ok store ∧
      store.types.entries = [("String", ⟨"String"⟩)] ∧ store.userClass = some "u" ∧
      runStages .sql (Packages.ofModel (labelModel "String" "Long")) ElementKind.stages store =
        .ok store := by
  have hrun : (runStages .sql (Packages.ofModel (labelModel "String" "Long")) ElementKind.stages
      usedStore).map (fun store => (store.types.entries, store.userClass)) =
        .ok ([("String", ⟨"String"⟩)], some "u") := by
    decide +kernel
  obtain ⟨store, hstore, hsame⟩ := map_eq_ok.1 hrun
  obtain ⟨htypes, huser⟩ := Prod.mk.inj hsame
  exact ⟨store, hstore, htypes, huser, (stages_again .sql _).2.1 _ _ hstore⟩

end ClassDiagram
