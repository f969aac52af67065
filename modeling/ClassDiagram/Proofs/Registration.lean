import ClassDiagram.Proofs.Repetition

/-!
# Entering a type again

A type is entered under the spelling of its name, and a name without a spelling enters nothing
(`run_enterType_of_canonical?`, `run_enterType_of_none`).  Spellings stand for all names that are
equal up to case, so such names enter the same type (`store_enterType_congr`), and to try one of
them where another has been tried changes nothing more (`run_enterType_again`).  Of a sequence of
such names every one comes to what it would come to alone (`registerEach_eq_map`).

Names that are refused are told apart by the fault alone, which says which name it was.
-/

namespace ClassDiagram

/-! ## One name -/

section

variable {system : TypeSystem} {name other : String}

/-- A name is entered under its spelling. -/
theorem run_enterType_of_canonical? {canonical : String}
    (h : system.canonical? name = some canonical) (id : ElementId) (store : Store) :
    (enterType system name id).run store =
      ⟨.ok canonical, store.addType id ⟨canonical⟩, [.registeredType canonical id]⟩ := by
  rw [enterType, canonicalize_of_canonical? h]
  rfl

/-- A name that has no spelling is refused before anything is done. -/
theorem run_enterType_of_none (h : system.canonical? name = none) (id : ElementId)
    (store : Store) :
    (enterType system name id).run store =
      ⟨.error (.unsupportedType name system.name), store, []⟩ := by
  rw [enterType, canonicalize_of_canonical?_eq_none h]
  rfl

/-- What is given for a name is its spelling. -/
theorem toOption_result_enterType (system : TypeSystem) (name : String) (id : ElementId)
    (store : Store) :
    ((enterType system name id).run store).result.toOption = system.canonical? name := by
  cases hspelled : system.canonical? name with
  | none =>
      rw [run_enterType_of_none hspelled]
      rfl
  | some canonical =>
      rw [run_enterType_of_canonical? hspelled]
      rfl

/-- What is entered for a name is its spelling, too. -/
theorem store_enterType (system : TypeSystem) (name : String) (id : ElementId) (store : Store) :
    ((enterType system name id).run store).store =
      (system.canonical? name).elim store fun canonical => store.addType id ⟨canonical⟩ := by
  cases hspelled : system.canonical? name with
  | none =>
      rw [run_enterType_of_none hspelled]
      rfl
  | some canonical =>
      rw [run_enterType_of_canonical? hspelled]
      rfl

/-- Names that are equal up to case enter the same type, or none. -/
theorem store_enterType_congr (h : Text.asciiFolded name = Text.asciiFolded other)
    (id : ElementId) (store : Store) :
    ((enterType system name id).run store).store =
      ((enterType system other id).run store).store := by
  rw [store_enterType, store_enterType, canonical?_congr h]

/-- A name that is not refused has entered what it gives. -/
theorem store_enterType_of_ok {id : ElementId} {store : Store} {canonical : String}
    (h : ((enterType system name id).run store).result = .ok canonical) :
    ((enterType system name id).run store).store = store.addType id ⟨canonical⟩ := by
  have hspelled : system.canonical? name = some canonical := by
    rw [← toOption_result_enterType system name id store, h]
    rfl
  rw [store_enterType, hspelled, Option.elim_some]

/-- A name that is refused is in the fault, and it has entered nothing. -/
theorem enterType_of_error {id : ElementId} {store : Store} {fault : Fault}
    (h : ((enterType system name id).run store).result = .error fault) :
    fault = .unsupportedType name system.name ∧
      ((enterType system name id).run store).store = store := by
  have hnone : system.canonical? name = none := by
    rw [← toOption_result_enterType system name id store, h]
    rfl
  rw [run_enterType_of_none hnone] at h ⊢
  exact ⟨(Except.error.inj h).symm, rfl⟩

/-- Where an equal name has been tried, a name comes to what it would have come to at first. -/
theorem run_enterType_again (h : Text.asciiFolded name = Text.asciiFolded other)
    (id : ElementId) (store : Store) :
    (enterType system other id).run ((enterType system name id).run store).store =
      (enterType system other id).run store := by
  rw [store_enterType_congr h]
  cases hspelled : system.canonical? other with
  | none => rw [run_enterType_of_none hspelled, run_enterType_of_none hspelled]
  | some canonical =>
      have hagain : (store.addType id ⟨canonical⟩).addType id ⟨canonical⟩ =
          store.addType id ⟨canonical⟩ :=
        applyAll_applyAll_self [.registerType id canonical] store
      rw [run_enterType_of_canonical? hspelled, run_enterType_of_canonical? hspelled, hagain]

end

/-! ## Many names -/

/-- Tries some names one after the other under the same id, each on the store that the one before
has left, whether or not that one was refused. -/
def registerEach (system : TypeSystem) (id : ElementId) :
    List String → Store → List (Run Store String)
  | [], _ => []
  | name :: names, store =>
      (enterType system name id).run store ::
        registerEach system id names ((enterType system name id).run store).store

/-- A sequence of names comes to what any one of them comes to. -/
structure ComesToOne (system : TypeSystem) (id : ElementId) (names : List String)
    (store : Store) : Prop where
  /-- Each name comes to what it would come to alone. -/
  eq_map : registerEach system id names store =
    names.map fun name => (enterType system name id).run store
  /-- After each name the store is what one of them alone makes of it, whichever that is. -/
  store_eq : ∀ name ∈ names, ∀ run ∈ registerEach system id names store,
    run.store = ((enterType system name id).run store).store
  /-- All names give the same spelling, or all are refused. -/
  toOption_eq : ∀ name ∈ names, ∀ run ∈ registerEach system id names store,
    run.result.toOption = ((enterType system name id).run store).result.toOption

section

variable {names : List String}
  (h : names.Pairwise fun name other => Text.asciiFolded name = Text.asciiFolded other)

include h

/-- Of names that are equal up to case, each comes to what it would come to alone. -/
theorem registerEach_eq_map (system : TypeSystem) (id : ElementId) (store : Store) :
    registerEach system id names store =
      names.map fun name => (enterType system name id).run store := by
  induction h generalizing store with
  | nil => rfl
  | @cons name names hname _ ih =>
      have hrest : ∀ other ∈ names,
          (enterType system other id).run ((enterType system name id).run store).store =
            (enterType system other id).run store :=
        fun other hother => run_enterType_again (hname other hother) id store
      rw [registerEach, ih, List.map_cons, List.map_congr_left hrest]

/-- Names that are equal up to case come to what one of them comes to. -/
theorem comesToOne_of_pairwise (system : TypeSystem) (id : ElementId) (store : Store) :
    ComesToOne system id names store := by
  have halone := registerEach_eq_map h system id store
  have hequal : ∀ name ∈ names, ∀ other ∈ names,
      Text.asciiFolded name = Text.asciiFolded other := by
    intro name hname other hother
    have hsymm : names.Pairwise fun name other => Text.asciiFolded other = Text.asciiFolded name :=
      h.imp Eq.symm
    exact List.Pairwise.forall_of_forall_of_flip
      (R := fun name other => Text.asciiFolded name = Text.asciiFolded other)
      (fun _ _ => rfl) h hsymm hname hother
  refine ⟨halone, ?_, ?_⟩
  · intro name hname run hrun
    rw [halone] at hrun
    obtain ⟨other, hother, rfl⟩ := List.mem_map.1 hrun
    exact store_enterType_congr (hequal other hother name hname) id store
  · intro name hname run hrun
    rw [halone] at hrun
    obtain ⟨other, hother, rfl⟩ := List.mem_map.1 hrun
    rw [toOption_result_enterType, toOption_result_enterType,
      canonical?_congr (hequal other hother name hname)]

end

/-- Spellings stand for names up to case: equal names have the same spelling, which is among the
names of the type system, is equal to them and is its own spelling; and only names that the type
system does not have in any case are without one.  To try any number of equal names under an id is
therefore to try one of them.  A name that is not refused enters its spelling, whatever stood under
the id, and one that is refused leaves the store as it was. -/
theorem spelling_stands_for_equal_names (system : TypeSystem) :
    (∀ name other, Text.asciiFolded name = Text.asciiFolded other →
      system.canonical? name = system.canonical? other) ∧
    (∀ name canonical, system.canonical? name = some canonical →
      canonical ∈ system.typeNames ∧ Text.asciiFolded canonical = Text.asciiFolded name ∧
        system.canonical? canonical = some canonical) ∧
    (∀ name, system.canonical? name = none ↔
      ∀ listed ∈ system.typeNames, Text.asciiFolded listed ≠ Text.asciiFolded name) ∧
    (∀ id names store,
      (names.Pairwise fun name other => Text.asciiFolded name = Text.asciiFolded other) →
        ComesToOne system id names store) ∧
    ∀ name id store,
      (∀ canonical, ((enterType system name id).run store).result = .ok canonical →
        ((enterType system name id).run store).store = store.addType id ⟨canonical⟩) ∧
      ∀ fault, ((enterType system name id).run store).result = .error fault →
        fault = .unsupportedType name system.name ∧
          ((enterType system name id).run store).store = store := by
  refine ⟨fun _ _ => canonical?_congr, ?_, fun _ => canonical?_eq_none_iff, ?_, ?_⟩
  · intro name canonical h
    exact ⟨mem_typeNames_of_canonical? h, asciiFolded_of_canonical? h, canonical?_canonical h⟩
  · intro id names store h
    exact comesToOne_of_pairwise h system id store
  · intro name id store
    exact ⟨fun _ => store_enterType_of_ok, fun _ => enterType_of_error⟩

/-- A type system that has one of its names in two spellings. -/
def textTypes : TypeSystem := ⟨"text", ["Text", "TEXT", "Long"]⟩

/-- The first spelling is the one that counts, and it takes the place of what stood under the id; a
name that is not a type leaves that where it is. -/
theorem spelling_stands_for_equal_names_text :
    textTypes.canonical? "tEXT" = some "Text" ∧ textTypes.canonical? "Text" = some "Text" ∧
      (∀ run ∈ registerEach textTypes "String" ["tEXT", "TEXT", "Text"] usedStore,
        run.store = usedStore.addType "String" ⟨"Text"⟩ ∧ run.result.toOption = some "Text") ∧
      ((enterType textTypes "Texts" "String").run usedStore).store = usedStore := by
  obtain ⟨hequal, hspelled, -, hone, hentered⟩ := spelling_stands_for_equal_names textTypes
  have hupper : textTypes.canonical? "TEXT" = some "Text" := by decide +kernel
  have hnames : ["tEXT", "TEXT", "Text"].Pairwise fun name other =>
      Text.asciiFolded name = Text.asciiFolded other := by decide +kernel
  have hcomes := hone "String" _ usedStore hnames
  have hresult : ((enterType textTypes "TEXT" "String").run usedStore).result = .ok "Text" := rfl
  have hfault : ((enterType textTypes "Texts" "String").run usedStore).result =
      .error (.unsupportedType "Texts" "text") := rfl
  refine ⟨(hequal _ _ (by decide +kernel)).trans hupper, (hspelled _ _ hupper).2.2, ?_,
    ((hentered _ _ _).2 _ hfault).2⟩
  intro run hrun
  refine ⟨?_, ?_⟩
  · rw [hcomes.store_eq "TEXT" (by decide) run hrun, (hentered _ _ _).1 _ hresult]
  · rw [hcomes.toOption_eq "TEXT" (by decide) run hrun, hresult]
    rfl

end ClassDiagram
