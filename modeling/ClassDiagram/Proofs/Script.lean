import ClassDiagram.Script
import Mathlib.Data.List.Forall2

/-!
# Scripts that end well

What a script comes to is decided part by part: a sequence ends well if each of
its parts does, and a script over a list if it ends well for every member.  The
edits of a script that ends well are the edits of its parts in order.

`ok_bind_and` and `ok_mapM` say the same of plain outcomes, `succeeds_bind_and`
and `succeeds_forM` of scripts.  What a list is read into corresponds to it member
by member (`forall₂_of_mapM_eq_ok`).  `edits_bind` and `edits_forM` give the edits.
A script over a list that fails has gone as far as the first member that fails
(`exists_of_forM_eq_error`).
-/

namespace ClassDiagram

variable {ε α β : Type}

/-! ## Outcomes -/

/-- A sequence gives a result exactly if its first part gives one from which the second part
gives that result. -/
theorem bind_eq_ok {first : Except ε α} {next : α → Except ε β} {result : β} :
    first >>= next = .ok result ↔ ∃ middle, first = .ok middle ∧ next middle = .ok result := by
  cases first with
  | error fault => simp [bind, Except.bind]
  | ok middle => simp [bind, Except.bind]

theorem map_eq_ok {f : α → β} {outcome : Except ε α} {result : β} :
    outcome.map f = .ok result ↔ ∃ middle, outcome = .ok middle ∧ f middle = result := by
  cases outcome with
  | error fault => simp [Except.map]
  | ok middle => simp [Except.map]

/-- A sequence fails exactly if one of its parts does. -/
theorem bind_eq_error {first : Except ε α} {next : α → Except ε β} {fault : ε} :
    first >>= next = .error fault ↔
      first = .error fault ∨ ∃ middle, first = .ok middle ∧ next middle = .error fault := by
  cases first with
  | error fault => simp [bind, Except.bind]
  | ok middle => simp [bind, Except.bind]

theorem map_eq_error {f : α → β} {outcome : Except ε α} {fault : ε} :
    outcome.map f = .error fault ↔ outcome = .error fault := by
  cases outcome <;> simp [Except.map]

theorem mapError_eq_ok {ε' : Type} {f : ε → ε'} {outcome : Except ε α} {result : α} :
    outcome.mapError f = .ok result ↔ outcome = .ok result := by
  cases outcome <;> simp [Except.mapError]

theorem mapError_eq_error {ε' : Type} {f : ε → ε'} {outcome : Except ε α} {fault : ε'} :
    outcome.mapError f = .error fault ↔ ∃ cause, outcome = .error cause ∧ f cause = fault := by
  cases outcome <;> simp [Except.mapError]

theorem exists_eq_ok_of_isOk {outcome : Except ε α} (h : outcome.isOk = true) :
    ∃ result, outcome = .ok result := by
  cases outcome with
  | error fault => cases h
  | ok result => exact ⟨result, rfl⟩

/-- Where the second part gives a result under the same condition after every first result, the
sequence gives one exactly if the first part does and the condition holds. -/
theorem ok_bind_and {first : Except ε α} {next : α → Except ε β} {condition : Prop}
    (h : ∀ middle, first = .ok middle → ((∃ result, next middle = .ok result) ↔ condition)) :
    (∃ result, first >>= next = .ok result) ↔ (∃ middle, first = .ok middle) ∧ condition := by
  simp only [bind_eq_ok]
  constructor
  · rintro ⟨result, middle, hfirst, hnext⟩
    exact ⟨⟨middle, hfirst⟩, (h middle hfirst).1 ⟨result, hnext⟩⟩
  · rintro ⟨⟨middle, hfirst⟩, hcondition⟩
    obtain ⟨result, hnext⟩ := (h middle hfirst).2 hcondition
    exact ⟨result, middle, hfirst, hnext⟩

theorem ok_pure (result : α) : ∃ result', (pure result : Except ε α) = .ok result' :=
  ⟨result, rfl⟩

/-- A second part that cannot fail leaves the decision to the first. -/
theorem ok_bind_left {first : Except ε α} {next : α → Except ε β}
    (h : ∀ middle, ∃ result, next middle = .ok result) :
    (∃ result, first >>= next = .ok result) ↔ ∃ middle, first = .ok middle := by
  rw [ok_bind_and fun middle _ => iff_true_intro (h middle), and_true]

/-- A list is read exactly if each of its members is. -/
theorem ok_mapM {read : α → Except ε β} {items : List α} :
    (∃ results, items.mapM read = .ok results) ↔
      ∀ item ∈ items, ∃ result, read item = .ok result := by
  induction items with
  | nil => simp [pure, Except.pure]
  | cons item items ih =>
      have hrest : ∀ result, (∃ results, (do
          let results ← items.mapM read
          pure (result :: results)) = .ok results) ↔
            ∀ item ∈ items, ∃ result, read item = .ok result := by
        intro result
        rw [ok_bind_left fun results => ok_pure (result :: results), ih]
      rw [List.mapM_cons, ok_bind_and fun result _ => hrest result]
      simp

/-- A list is refused for one of its members. -/
theorem exists_mem_of_mapM_eq_error {read : α → Except ε β} {items : List α} {fault : ε}
    (h : items.mapM read = .error fault) : ∃ item ∈ items, read item = .error fault := by
  induction items with
  | nil => cases h
  | cons item items ih =>
      rw [List.mapM_cons] at h
      cases hitem : read item with
      | error other =>
          rw [hitem] at h
          cases h
          exact ⟨item, List.mem_cons_self, hitem⟩
      | ok result =>
          cases hitems : items.mapM read with
          | error other =>
              rw [hitem, hitems] at h
              cases h
              obtain ⟨found, hmem, hfound⟩ := ih hitems
              exact ⟨found, List.mem_cons_of_mem item hmem, hfound⟩
          | ok results =>
              rw [hitem, hitems] at h
              cases h

/-- A list is read member by member. -/
theorem forall₂_of_mapM_eq_ok {read : α → Except ε β} {items : List α} {results : List β}
    (h : items.mapM read = .ok results) :
    List.Forall₂ (fun item result => read item = .ok result) items results := by
  induction items generalizing results with
  | nil =>
      obtain rfl := Except.ok.inj h
      exact .nil
  | cons item items ih =>
      rw [List.mapM_cons] at h
      obtain ⟨result, hresult, h⟩ := bind_eq_ok.1 h
      obtain ⟨results, hresults, h⟩ := bind_eq_ok.1 h
      obtain rfl := Except.ok.inj h
      exact .cons hresult (ih hresults)

theorem mem_right_of_forall₂ {related : α → β → Prop} {items : List α} {others : List β}
    (h : List.Forall₂ related items others) {a : α} (ha : a ∈ items) :
    ∃ b ∈ others, related a b := by
  induction h with
  | nil => cases ha
  | @cons item other items others hrelated _ ih =>
      cases ha with
      | head => exact ⟨other, List.mem_cons_self, hrelated⟩
      | tail _ ha =>
          obtain ⟨b, hb, hab⟩ := ih ha
          exact ⟨b, List.mem_cons_of_mem other hb, hab⟩

/-- What a list is read into comes from its members. -/
theorem exists_mem_of_mapM_eq_ok {read : α → Except ε β} {items : List α} {results : List β}
    (h : items.mapM read = .ok results) {result : β} (hresult : result ∈ results) :
    ∃ item ∈ items, read item = .ok result :=
  mem_right_of_forall₂ (forall₂_of_mapM_eq_ok h).flip hresult

/-- If what is read from an item is determined by the item, then so is what a list is read into. -/
theorem eq_map_of_mapM_eq_ok {read : α → Except ε β} {f : α → β}
    (hread : ∀ item result, read item = .ok result → result = f item) {items : List α}
    {results : List β} (h : items.mapM read = .ok results) : results = items.map f := by
  rw [← List.forall₂_eq_eq_eq, List.forall₂_map_right_iff]
  exact ((forall₂_of_mapM_eq_ok h).imp hread).flip

namespace Script

/-- Scripts over a list that do the same for every member are the same. -/
theorem forM_eq_of_step_eq {step step' : α → Script PUnit} {items : List α}
    (h : ∀ item ∈ items, step item = step' item) : forM items step = forM items step' := by
  induction items with
  | nil => rfl
  | cons item items ih =>
      rw [List.forall_mem_cons] at h
      rw [List.forM_cons, List.forM_cons, h.1, ih h.2]

/-! ## Scripts that end well -/

/-- The script comes to a result. -/
def Succeeds (script : Script α) : Prop := ∃ result, script.outcome = .ok result

@[simp]
theorem succeeds_ofExcept {outcome : Except Fault α} :
    (ofExcept outcome).Succeeds ↔ ∃ result, outcome = .ok result := Iff.rfl

@[simp]
theorem succeeds_pure (result : α) : (pure result : Script α).Succeeds := ⟨result, rfl⟩

@[simp]
theorem succeeds_edit (e : Edit) : (edit e).Succeeds := ⟨(), rfl⟩

@[simp]
theorem succeeds_report (notice : Notice) : (report notice).Succeeds := ⟨(), rfl⟩

theorem outcome_bind (script : Script α) (next : α → Script β) :
    (script >>= next).outcome = script.outcome >>= fun result => (next result).outcome := by
  cases h : script.outcome with
  | ok result => rw [bind_of_ok h]; rfl
  | error fault => rw [bind_of_error h]; rfl

/-- A sequence ends well exactly if its first part has a result after which the second part ends
well. -/
theorem succeeds_bind {script : Script α} {next : α → Script β} :
    (script >>= next).Succeeds ↔
      ∃ result, script.outcome = .ok result ∧ (next result).Succeeds := by
  unfold Succeeds
  rw [outcome_bind]
  simp only [bind_eq_ok]
  constructor
  · rintro ⟨result, middle, hscript, hnext⟩
    exact ⟨middle, hscript, result, hnext⟩
  · rintro ⟨middle, hscript, result, hnext⟩
    exact ⟨result, middle, hscript, hnext⟩

/-- Where the second part ends well under the same condition after every result, the sequence
ends well exactly if the first part does and the condition holds. -/
theorem succeeds_bind_and {script : Script α} {next : α → Script β} {condition : Prop}
    (h : ∀ result, script.outcome = .ok result → ((next result).Succeeds ↔ condition)) :
    (script >>= next).Succeeds ↔ script.Succeeds ∧ condition := by
  rw [succeeds_bind]
  constructor
  · rintro ⟨result, hscript, hnext⟩
    exact ⟨⟨result, hscript⟩, (h result hscript).1 hnext⟩
  · rintro ⟨⟨result, hscript⟩, hcondition⟩
    exact ⟨result, hscript, (h result hscript).2 hcondition⟩

/-- A second part that cannot fail leaves the decision to the first. -/
theorem succeeds_bind_left {script : Script α} {next : α → Script β}
    (h : ∀ result, (next result).Succeeds) : (script >>= next).Succeeds ↔ script.Succeeds := by
  rw [succeeds_bind_and fun result _ => iff_true_intro (h result), and_true]

/-- To drop the result changes nothing. -/
theorem succeeds_discard {script : Script α} :
    (script >>= fun _ => (pure () : Script Unit)).Succeeds ↔ script.Succeeds :=
  succeeds_bind_left fun _ => succeeds_pure ()

/-- A script over a list ends well exactly if it does so for every member. -/
theorem succeeds_forM {step : α → Script PUnit} {items : List α} :
    (forM items step).Succeeds ↔ ∀ item ∈ items, (step item).Succeeds := by
  induction items with
  | nil => simp
  | cons item items ih =>
      rw [List.forM_cons, succeeds_bind_and fun _ _ => ih]
      simp

theorem succeeds_collecting {script : Script Unit} :
    script.collecting.Succeeds ↔ script.Succeeds := by
  cases h : script.outcome with
  | ok result => simp [Succeeds, collecting, h, Except.map]
  | error fault => simp [Succeeds, collecting, h, Except.map]

/-- A script finishes with the store that its edits make, unless it fails. -/
theorem finished_run_eq_ok_iff {script : Script α} {store store' : Store} :
    (script.run store).finished = .ok store' ↔
      script.Succeeds ∧ Edit.applyAll script.edits store = store' := by
  unfold Run.finished run Succeeds
  cases script.outcome <;> simp [Except.map]

/-! ## The edits of all scripts -/

/-- Every edit that the script makes meets the condition, whether or not it ends well. -/
def MakesOnly (condition : Edit → Prop) (script : Script α) : Prop :=
  ∀ e ∈ script.edits, condition e

variable {condition : Edit → Prop}

theorem makesOnly_ofExcept (outcome : Except Fault α) : (ofExcept outcome).MakesOnly condition := by
  simp [MakesOnly, ofExcept]

theorem makesOnly_pure (result : α) : (pure result : Script α).MakesOnly condition := by
  simp [MakesOnly]

theorem makesOnly_edit {e : Edit} (h : condition e) : (edit e).MakesOnly condition := by
  intro e' he'
  rw [List.mem_singleton.1 he']
  exact h

/-- A sequence makes only edits that one of its parts makes. -/
theorem makesOnly_bind {script : Script α} {next : α → Script β}
    (hscript : script.MakesOnly condition) (hnext : ∀ result, (next result).MakesOnly condition) :
    (script >>= next).MakesOnly condition := by
  intro e he
  cases h : script.outcome with
  | error fault =>
      rw [bind_of_error h] at he
      exact hscript e he
  | ok result =>
      rw [bind_of_ok h, List.mem_append] at he
      rcases he with he | he
      · exact hscript e he
      · exact hnext result e he

/-- A script over a list makes only edits that it makes for a member. -/
theorem makesOnly_forM {step : α → Script PUnit} {items : List α}
    (h : ∀ item, (step item).MakesOnly condition) : (forM items step).MakesOnly condition := by
  induction items with
  | nil => exact makesOnly_pure _
  | cons item items ih =>
      rw [List.forM_cons]
      exact makesOnly_bind (h item) fun _ => ih

/-! ## The edits of scripts that end well -/

/-- A sequence makes the edits of its first part and then those of its second. -/
theorem edits_bind {script : Script α} {result : α} (h : script.outcome = .ok result)
    (next : α → Script β) : (script >>= next).edits = script.edits ++ (next result).edits := by
  rw [bind_of_ok h]

/-- To drop the result changes no edit, whether or not the script ends well. -/
theorem edits_discard (script : Script α) :
    (script >>= fun _ => (pure () : Script Unit)).edits = script.edits := by
  cases h : script.outcome with
  | ok result => rw [edits_bind h, edits_pure, List.append_nil]
  | error fault => rw [bind_of_error h]

/-- A script over a list makes the edits for each member in turn. -/
theorem edits_forM {step : α → Script PUnit} {items : List α} (h : (forM items step).Succeeds) :
    (forM items step).edits = items.flatMap fun item => (step item).edits := by
  induction items with
  | nil => rfl
  | cons item items ih =>
      rw [List.forM_cons, succeeds_bind] at h
      obtain ⟨result, hitem, hitems⟩ := h
      rw [List.forM_cons, edits_bind hitem, ih hitems, List.flatMap_cons]

/-! ## The edits of scripts that fail -/

/-- Where the second part cannot fail, a sequence that fails has not come to it. -/
theorem of_bind_eq_error {script : Script α} {next : α → Script β} {fault : Fault}
    (hnext : ∀ result, (next result).Succeeds) (h : (script >>= next).outcome = .error fault) :
    script.outcome = .error fault ∧ (script >>= next).edits = script.edits := by
  cases hscript : script.outcome with
  | error other =>
      rw [bind_of_error hscript] at h ⊢
      exact ⟨congrArg Except.error (Except.error.inj h), rfl⟩
  | ok result =>
      obtain ⟨result', hresult⟩ := hnext result
      rw [bind_of_ok hscript, hresult] at h
      cases h

theorem collecting_eq_error_iff {script : Script Unit} {fault : Fault} :
    script.collecting.outcome = .error fault ↔ script.outcome = .error fault := by
  cases h : script.outcome with
  | ok result => simp [collecting, h, Except.map]
  | error other => simp [collecting, h, Except.map]

/-- A script over a list that fails does so at one of the members: it has made the edits for those
before, and the edits that this one makes before it fails. -/
theorem exists_of_forM_eq_error {step : α → Script PUnit} {items : List α} {fault : Fault}
    (h : (forM items step).outcome = .error fault) :
    ∃ front item back, items = front ++ item :: back ∧ (forM front step).Succeeds ∧
      (step item).outcome = .error fault ∧
      (forM items step).edits = (forM front step).edits ++ (step item).edits := by
  induction items with
  | nil => cases h
  | cons item items ih =>
      cases hitem : (step item).outcome with
      | error other =>
          rw [List.forM_cons, bind_of_error hitem] at h ⊢
          obtain rfl := Except.error.inj h
          exact ⟨[], item, items, rfl, succeeds_pure _, hitem, rfl⟩
      | ok result =>
          rw [List.forM_cons, bind_of_ok hitem] at h
          obtain ⟨front, found, back, rfl, hfront, hfound, hedits⟩ := ih h
          refine ⟨item :: front, found, back, rfl, ?_, hfound, ?_⟩
          · exact succeeds_bind.2 ⟨result, hitem, hfront⟩
          · rw [List.forM_cons, List.forM_cons, edits_bind hitem, edits_bind hitem, hedits,
              List.append_assoc]

end Script

end ClassDiagram
