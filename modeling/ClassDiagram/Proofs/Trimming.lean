import ClassDiagram.Text.Blank
import Mathlib.Data.List.DropRight

/-!
# Trimmed texts

A text is trimmed if no blank stands at either end.  Trimming a text gives the one trimmed
text from which it comes by putting blanks around it (`trimChars_eq_iff`), so that what is
trimmed can be told without following how blanks are cut.
-/

namespace ClassDiagram.Text

/-! ## Cutting an end -/

/-- An end is cut as in the library. -/
theorem dropEnd_eq_rdropWhile (p : Char → Bool) (cs : List Char) :
    dropEnd p cs = cs.rdropWhile p := rfl

/-- No character of the class is left at the end. -/
theorem getLast?_dropEnd (p : Char → Bool) (cs : List Char) {c : Char}
    (h : (dropEnd p cs).getLast? = some c) : p c = false := by
  have hne : cs.rdropWhile p ≠ [] := fun hnil => by
    rw [dropEnd_eq_rdropWhile, hnil] at h
    cases h
  have hlast : (cs.rdropWhile p).getLast hne = c :=
    Option.some.inj ((List.getLast?_eq_some_getLast hne).symm.trans h)
  exact hlast ▸ eq_false_of_ne_true (List.rdropWhile_last_not p cs hne)

/-- Cutting the end after a character that is not of the class leaves that character. -/
theorem dropEnd_append_cons {p : Char → Bool} {c : Char} (hc : p c = false)
    (front rest : List Char) :
    dropEnd p (front ++ c :: rest) = front ++ c :: dropEnd p rest := by
  simp only [dropEnd, List.reverse_append, List.reverse_cons, List.append_assoc,
    List.singleton_append, List.dropWhile_append]
  split
  · next hnil => simp [List.isEmpty_iff.1 hnil, hc]
  · simp

/-- Characters of the class at the end are cut. -/
theorem dropEnd_append_of_forall {p : Char → Bool} {tail : List Char}
    (h : ∀ c ∈ tail, p c = true) (cs : List Char) : dropEnd p (cs ++ tail) = dropEnd p cs := by
  have hall : ∀ c ∈ tail.reverse, p c = true := fun c hc => h c (List.mem_reverse.1 hc)
  rw [dropEnd, List.reverse_append, List.dropWhile_append_of_pos hall, dropEnd]

/-- Cutting an end leaves the one front after which only characters of the class follow and that
does not itself end in one. -/
theorem dropEnd_eq_iff {p : Char → Bool} {cs front : List Char} :
    dropEnd p cs = front ↔
      (∀ c ∈ front.getLast?, p c = false) ∧
        ∃ tail, cs = front ++ tail ∧ ∀ c ∈ tail, p c = true := by
  constructor
  · rintro rfl
    refine ⟨fun c hc => getLast?_dropEnd p cs hc, cs.rtakeWhile p, ?_, ?_⟩
    · exact List.rdropWhile_append_rtakeWhile.symm
    · exact fun c hc => List.mem_rtakeWhile_imp hc
  · rintro ⟨hlast, tail, rfl, htail⟩
    rw [dropEnd_append_of_forall htail, dropEnd_eq_rdropWhile, List.rdropWhile_eq_self_iff]
    exact fun hne => ne_true_of_eq_false (hlast _ (List.getLast?_eq_some_getLast hne))

/-- A text without a mark is passed over as a whole in the search for the mark. -/
theorem forall_ne_of_not_mem {mark : Char} {cs : List Char} (h : mark ∉ cs) :
    ∀ c ∈ cs, decide (c ≠ mark) = true := by
  intro c hc
  exact decide_eq_true fun heq => h (heq ▸ hc)

/-- Of a text with a run of marks at the end the run is cut, and nothing else. -/
theorem dropEnd_append_replicate {mark : Char} {cs : List Char} (h : cs.getLast? ≠ some mark)
    (count : Nat) : dropEnd (· = mark) (cs ++ List.replicate count mark) = cs := by
  refine dropEnd_eq_iff.2 ⟨fun c hc => ?_, _, rfl, fun c hc => ?_⟩
  · exact decide_eq_false fun heq => h (heq ▸ hc)
  · exact decide_eq_true (List.eq_of_mem_replicate hc)

/-! ## Trimming -/

/-- No blank stands at either end. -/
structure Trimmed (cs : List Char) : Prop where
  head : ∀ c ∈ cs.head?, isBlank c = false
  last : ∀ c ∈ cs.getLast?, isBlank c = false

theorem trimmed_trimChars (cs : List Char) : Trimmed (trimChars cs) where
  head := by
    intro c hc
    cases hdrop : cs.dropWhile isBlank with
    | nil =>
        rw [trimChars, hdrop] at hc
        cases hc
    | cons d rest =>
        have hd : isBlank d = false := by
          have := List.head?_dropWhile_not isBlank cs
          rw [hdrop] at this
          simpa using this
        have hfirst : dropEnd isBlank (d :: rest) = d :: dropEnd isBlank rest :=
          dropEnd_append_cons hd [] rest
        rw [trimChars, hdrop, hfirst] at hc
        exact Option.some.inj hc ▸ hd
  last := fun _ => getLast?_dropEnd isBlank _

/-- Trimming leaves nothing exactly of a text of blanks. -/
theorem trimChars_eq_nil_iff {cs : List Char} :
    trimChars cs = [] ↔ ∀ c ∈ cs, isBlank c = true := by
  rw [trimChars, dropEnd_eq_rdropWhile, List.rdropWhile_eq_nil_iff]
  constructor
  · intro h c hc
    rw [← List.takeWhile_append_dropWhile (p := isBlank) (l := cs), List.mem_append] at hc
    rcases hc with hc | hc
    · exact List.mem_takeWhile_imp hc
    · exact h c hc
  · intro h c hc
    exact h c (List.dropWhile_subset _ hc)

/-- Trimming begins behind a front without blanks. -/
theorem trimChars_append {front : List Char} (hne : front ≠ [])
    (hfront : ∀ c ∈ front, isBlank c = false) (rest : List Char) :
    trimChars (front ++ rest) = front ++ dropEnd isBlank rest := by
  have hhead : (front ++ rest).dropWhile isBlank = front ++ rest := by
    cases front with
    | nil => exact absurd rfl hne
    | cons c front => exact List.dropWhile_cons_of_neg (by simp [hfront c List.mem_cons_self])
  obtain ⟨init, c, rfl⟩ := List.eq_nil_or_concat front |>.resolve_left hne
  rw [trimChars, hhead, List.concat_eq_append, List.append_assoc, List.append_assoc,
    List.singleton_append, dropEnd_append_cons (hfront c (by simp))]
  rfl

/-- Blanks in front of a text are cut. -/
theorem trimChars_append_of_blank {front : List Char} (h : ∀ c ∈ front, isBlank c = true)
    (rest : List Char) : trimChars (front ++ rest) = trimChars rest := by
  rw [trimChars, List.dropWhile_append_of_pos h, trimChars]

/-- Blanks behind a trimmed text are cut. -/
theorem trimChars_append_blanks {word back : List Char} (hword : Trimmed word)
    (hback : ∀ c ∈ back, isBlank c = true) : trimChars (word ++ back) = word := by
  rcases List.eq_nil_or_concat word with rfl | ⟨init, last, rfl⟩
  · exact trimChars_eq_nil_iff.2 hback
  · rw [List.concat_eq_append] at hword ⊢
    have hlast : isBlank last = false := hword.last last (by simp)
    have hstart : (init ++ [last] ++ back).dropWhile isBlank = init ++ [last] ++ back := by
      cases init with
      | nil => exact List.dropWhile_cons_of_neg (by simp [hlast])
      | cons c init => exact List.dropWhile_cons_of_neg (by simp [hword.head c rfl])
    rw [trimChars, hstart, List.append_assoc, List.singleton_append, dropEnd_append_cons hlast,
      dropEnd_eq_rdropWhile, List.rdropWhile_eq_nil_iff.2 hback]

/-- A trimmed text is what trimming gives of the text with blanks around it, and of no other. -/
theorem trimChars_eq_iff {cs word : List Char} :
    trimChars cs = word ↔ Trimmed word ∧ ∃ front back, cs = front ++ word ++ back ∧
      (∀ c ∈ front, isBlank c = true) ∧ ∀ c ∈ back, isBlank c = true := by
  constructor
  · rintro rfl
    refine ⟨trimmed_trimChars cs, cs.takeWhile isBlank, (cs.dropWhile isBlank).rtakeWhile isBlank,
      ?_, ?_, ?_⟩
    · rw [trimChars, dropEnd_eq_rdropWhile, List.append_assoc, List.rdropWhile_append_rtakeWhile,
        List.takeWhile_append_dropWhile]
    · exact fun c hc => List.mem_takeWhile_imp hc
    · exact fun c hc => List.mem_rtakeWhile_imp hc
  · rintro ⟨hword, front, back, rfl, hfront, hback⟩
    rw [List.append_assoc, trimChars_append_of_blank hfront, trimChars_append_blanks hword hback]

/-- Trimming adds no characters. -/
theorem mem_of_mem_trimChars {c : Char} {cs : List Char} (h : c ∈ trimChars cs) : c ∈ cs := by
  obtain ⟨-, front, back, hcs, -⟩ :=
    trimChars_eq_iff.1 (rfl : trimChars cs = trimChars cs)
  rw [hcs]
  exact List.mem_append_left _ (List.mem_append_right _ h)

end ClassDiagram.Text
