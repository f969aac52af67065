import ClassDiagram.Proofs.Membership

/-!
# Which fault is reported

What is wrong with an element shows when it is read by itself.  A model is refused
exactly if one of its elements is, and the fault is that of the first such element
in the order of the stages (`readModel_fault_of_first`).  Builders look at the store
that the elements before have left, but what they find has no part in how they end:
a builder ends as its script does, and a script is written without a store.

`fault?` is the fault of a script.  The fault of a sequence is that of its first
part or else of its second, and the fault of a script over a list is the first
among its members (`fault?_forM`), so that a stage and a whole model report the
first fault of their elements (`fault?_recordStage`, `faultOf?_readModel`).
-/

namespace ClassDiagram

open Script

/-! ## Faults of scripts -/

/-- The fault in an outcome, if it is one. -/
def faultOf? {α : Type} : Except Fault α → Option Fault
  | .error fault => some fault
  | .ok _ => none

theorem faultOf?_eq_some_iff {α : Type} {outcome : Except Fault α} {fault : Fault} :
    faultOf? outcome = some fault ↔ outcome = .error fault := by
  cases outcome with
  | error other => simp [faultOf?]
  | ok result => simp [faultOf?]

theorem faultOf?_eq_none_iff {α : Type} {outcome : Except Fault α} :
    faultOf? outcome = none ↔ ∃ result, outcome = .ok result := by
  cases outcome with
  | error other => simp [faultOf?]
  | ok result => simp [faultOf?]

theorem isSome_faultOf?_iff {α : Type} {outcome : Except Fault α} :
    (faultOf? outcome).isSome ↔ ∃ fault, outcome = .error fault := by
  simp only [Option.isSome_iff_exists, faultOf?_eq_some_iff]

theorem faultOf?_map {α β : Type} (f : α → β) (outcome : Except Fault α) :
    faultOf? (outcome.map f) = faultOf? outcome := by
  cases outcome <;> rfl

namespace Script

/-- The fault that a script ends with, if it does. -/
def fault? {α : Type} (script : Script α) : Option Fault := faultOf? script.outcome

/-- The store does not change whether a script fails, or how. -/
theorem faultOf?_finished {α : Type} (script : Script α) (store : Store) :
    faultOf? (script.run store).finished = script.fault? :=
  faultOf?_map _ _

theorem fault?_bind {β : Type} (script : Script Unit) (next : Unit → Script β) :
    (script >>= next).fault? = script.fault?.or (next ()).fault? := by
  unfold fault?
  rw [outcome_bind]
  cases script.outcome <;> rfl

/-- A script over a list ends with the first fault of a member. -/
theorem fault?_forM {α : Type} {step : α → Script PUnit} {items : List α} :
    (forM items step).fault? = items.findSome? fun item => (step item).fault? := by
  induction items with
  | nil => rfl
  | cons item items ih =>
      rw [List.forM_cons, fault?_bind, ih, List.findSome?_cons]
      cases (step item).fault? <;> rfl

end Script

/-! ## Faults of models -/

theorem fault?_reportSkipped (packages : Packages) : packages.reportSkipped.fault? = none := by
  unfold Packages.reportSkipped
  rw [List.forM_eq_forM, fault?_forM, List.findSome?_eq_none_iff]
  exact fun _ _ => rfl

theorem fault?_recordStage (system : TypeSystem) (packages : Packages) (kind : ElementKind) :
    (recordStage system packages kind).fault? =
      (packages.select kind).findSome? fun node => (recordElement system kind node).fault? := by
  have hdone : (report (.stageDone kind)).fault? = none := rfl
  unfold recordStage
  rw [List.forM_eq_forM, fault?_bind, fault?_forM, hdone, Option.or_none]

/-- A stage by itself is refused for the first fault of its elements, on whatever store it is
run. -/
theorem faultOf?_buildModelStage (system : TypeSystem) (model : Xml.Node) (kind : ElementKind)
    (store : Store) :
    faultOf? ((buildModelStage system model kind).run store).finished =
      (elementsOf kind model).findSome? fun node => (recordElement system kind node).fault? := by
  rw [buildModelStage_eq, run_replay, faultOf?_finished, recordModelStage, fault?_bind,
    fault?_reportSkipped, Option.none_or, fault?_recordStage, Packages.select_eq_filter]
  rfl

/-- A model is refused for the first fault of an element, stage by stage. -/
theorem faultOf?_readModel (system : TypeSystem) (model : Xml.Node) :
    faultOf? (readModel system model).result = ElementKind.stages.findSome? fun kind =>
      (elementsOf kind model).findSome? fun node => (recordElement system kind node).fault? := by
  have hclassified : ∀ recognised total, (report (.classified recognised total)).fault? = none :=
    fun _ _ => rfl
  have hresult : faultOf? (readModel system model).result =
      (recordPackages system (Packages.ofModel model)).fault? := by
    rw [readModel_eq_run]
    exact faultOf?_finished _ _
  rw [hresult, recordPackages, fault?_bind, fault?_reportSkipped, Option.none_or, fault?_bind,
    hclassified, Option.none_or, List.forM_eq_forM, fault?_forM]
  simp only [fault?_recordStage, Packages.select_eq_filter]
  rfl

/-! ## Elements by themselves -/

/-- The model with a single child. -/
def withOnly (model node : Xml.Node) : Xml.Node := { model with children := [node] }

theorem elementsOf_withOnly {kind : ElementKind} {model node : Xml.Node}
    (h : node ∈ elementsOf kind model) (kind' : ElementKind) :
    elementsOf kind' (withOnly model node) = if kind' = kind then [node] else [] := by
  obtain ⟨hchild, hkind⟩ := List.mem_filter.1 h
  obtain ⟨-, htag⟩ := List.mem_filter.1 hchild
  have hchildren : (withOnly model node).childrenTagged Packages.elementTag = [node] := by
    simp [Xml.Node.childrenTagged, withOnly, of_decide_eq_true htag]
  have hkind := of_decide_eq_true hkind
  by_cases hsame : kind' = kind
  · subst hsame
    simp [elementsOf, hchildren, hkind]
  · have hother : ¬Grammar.HasKind node kind' := fun hkind' => hsame (hkind'.unique hkind)
    simp [elementsOf, hchildren, hother, hsame]

theorem findSome?_stages {α : Type} (f : ElementKind → Option α) :
    ElementKind.stages.findSome? f =
      ((((f .type).or (f .enumeration)).or (f (.entity .concrete))).or (f .association)).or
        (f (.entity .interface)) := by
  have hstages : ElementKind.stages = [.type] ++ [.enumeration] ++ [.entity .concrete] ++
      [.association] ++ [.entity .interface] := rfl
  rw [hstages]
  simp only [List.findSome?_append, List.findSome?_singleton]

theorem findSome?_stages_of_kind {α : Type} {f : ElementKind → Option α} {kind : ElementKind}
    (h : ∀ kind', kind' ≠ kind → f kind' = none) : ElementKind.stages.findSome? f = f kind := by
  rw [findSome?_stages]
  rcases kind with _ | _ | (_ | _) | _ <;> simp [h]

/-- By itself an element is refused for its own fault. -/
theorem faultOf?_withOnly {system : TypeSystem} {kind : ElementKind} {model node : Xml.Node}
    (h : node ∈ elementsOf kind model) :
    faultOf? (readModel system (withOnly model node)).result =
      (recordElement system kind node).fault? := by
  rw [faultOf?_readModel]
  simp only [elementsOf_withOnly h]
  refine (findSome?_stages_of_kind fun kind' (hne : kind' ≠ kind) => ?_).trans ?_
  · rw [if_neg hne, List.findSome?_nil]
  · rw [if_pos rfl, List.findSome?_singleton]

theorem findSome?_congr {α β : Type} {f g : α → Option β} {items : List α}
    (h : ∀ item ∈ items, f item = g item) : items.findSome? f = items.findSome? g := by
  induction items with
  | nil => rfl
  | cons item items ih =>
      rw [List.forall_mem_cons] at h
      rw [List.findSome?_cons, List.findSome?_cons, h.1, ih h.2]

theorem findSome?_withOnly (system : TypeSystem) (kind : ElementKind) (model : Xml.Node) :
    (elementsOf kind model).findSome? (fun node =>
      faultOf? (readModel system (withOnly model node)).result) =
        (elementsOf kind model).findSome? fun node => (recordElement system kind node).fault? :=
  findSome?_congr fun _ hnode => faultOf?_withOnly hnode

/-- The elements of a model in the order in which they are read. -/
def elementsInOrder (model : Xml.Node) : List Xml.Node :=
  elementsOf .type model ++ elementsOf .enumeration model ++
    elementsOf (.entity .concrete) model ++ elementsOf .association model ++
      elementsOf (.entity .interface) model

/-- The first fault is found by reading each element by itself. -/
theorem faultOf?_readModel_eq_findSome? (system : TypeSystem) (model : Xml.Node) :
    faultOf? (readModel system model).result = (elementsInOrder model).findSome? fun node =>
      faultOf? (readModel system (withOnly model node)).result := by
  rw [faultOf?_readModel, findSome?_stages]
  simp only [elementsInOrder, List.findSome?_append, findSome?_withOnly]

/-- A model is refused exactly if one of its elements is refused by itself, and the fault is that
of the first such element in the order of the stages.  A stage is refused for the first of its own
elements, whatever the store holds when it starts. -/
theorem readModel_fault_of_first (system : TypeSystem) (model : Xml.Node) :
    ((∃ fault, (readModel system model).result = .error fault) ↔
      ∃ node ∈ elementsInOrder model, ∃ fault,
        (readModel system (withOnly model node)).result = .error fault) ∧
    (∀ fault, (readModel system model).result = .error fault ↔
      ∃ before node after, elementsInOrder model = before ++ node :: after ∧
        (readModel system (withOnly model node)).result = .error fault ∧
        ∀ other ∈ before, ∃ store, (readModel system (withOnly model other)).result = .ok store) ∧
    ∀ kind store store',
      faultOf? ((buildModelStage system model kind).run store).finished =
        faultOf? ((buildModelStage system model kind).run store').finished ∧
      faultOf? ((buildModelStage system model kind).run store).finished =
        (elementsOf kind model).findSome? fun node =>
          faultOf? (readModel system (withOnly model node)).result := by
  have hfirst := faultOf?_readModel_eq_findSome? system model
  refine ⟨?_, fun fault => ?_, fun kind store store' => ⟨?_, ?_⟩⟩
  · simp only [← isSome_faultOf?_iff, hfirst, List.findSome?_isSome_iff]
  · rw [← faultOf?_eq_some_iff, hfirst, List.findSome?_eq_some_iff]
    simp only [faultOf?_eq_some_iff, faultOf?_eq_none_iff]
  · rw [faultOf?_buildModelStage, faultOf?_buildModelStage]
  · rw [faultOf?_buildModelStage, findSome?_withOnly]

end ClassDiagram
