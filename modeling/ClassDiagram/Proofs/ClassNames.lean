import ClassDiagram.Element.Name
import ClassDiagram.Proofs.Trimming

/-!
# The notation for a class and its table

A class may be named together with its table, as in `Order (t_order)`.  What is written so
is read back: `split_written` says it for every entity without a `(` and every table that
does not itself end in a `)`.  Blanks may stand around both, the table may have
parentheses inside, and the notation may be left open or be closed more than once.

What any name is split into is clean (`clean_split`): the entity has no parenthesis, and
neither it nor the table has blanks at its ends.  The two results and the names without a
table make up `split_undoes_notation`.
-/

namespace ClassDiagram.ClassName

/-! ## The table -/

/-- Trimming leaves the table with the `)` after it, and at most blanks in between. -/
theorem exists_trimChars_closed {table : List Char} (hne : Text.trimChars table ≠ [])
    (closing : Nat) {blanks : List Char} (hblanks : ∀ c ∈ blanks, Text.isBlank c = true) :
    ∃ middle, (∀ c ∈ middle, Text.isBlank c = true) ∧
      Text.trimChars (table ++ List.replicate closing ')' ++ blanks) =
        Text.trimChars table ++ middle ++ List.replicate closing ')' := by
  obtain ⟨hword, front, back, htable, hfront, hback⟩ :=
    Text.trimChars_eq_iff.1 (rfl : Text.trimChars table = Text.trimChars table)
  cases closing with
  | zero =>
      -- Nothing closes the notation, so the blanks after the table are at the end.
      refine ⟨[], by simp, ?_⟩
      rw [List.replicate_zero, List.append_nil, List.append_nil, List.append_nil,
        Text.trimChars_eq_iff]
      refine ⟨hword, front, back ++ blanks, ?_, hfront, ?_⟩
      · rw [← List.append_assoc, ← htable]
      · exact List.forall_mem_append.2 ⟨hback, hblanks⟩
  | succ closing =>
      refine ⟨back, hback, Text.trimChars_eq_iff.2 ⟨⟨?_, ?_⟩, front, blanks, ?_, hfront, hblanks⟩⟩
      · intro c hc
        rw [List.append_assoc, List.head?_append_of_ne_nil _ hne] at hc
        exact hword.head c hc
      · intro c hc
        rw [List.replicate_succ', ← List.append_assoc, List.getLast?_concat] at hc
        obtain rfl := Option.some.inj hc
        decide
      · conv => lhs; rw [htable]
        simp only [List.append_assoc]

/-- The table that is written is the one that is read. -/
theorem tableOf_closed {table : List Char} (hne : Text.trimChars table ≠ [])
    (hlast : (Text.trimChars table).getLast? ≠ some ')') (closing : Nat)
    {blanks : List Char} (hblanks : ∀ c ∈ blanks, Text.isBlank c = true) :
    tableOf (table ++ List.replicate closing ')' ++ blanks) =
      some (String.ofList (Text.trimChars table)) := by
  obtain ⟨middle, hmiddle, htrim⟩ := exists_trimChars_closed hne closing hblanks
  have hopen : (Text.trimChars table ++ middle).getLast? ≠ some ')' := by
    intro hend
    rw [List.getLast?_append, Option.or_eq_some_iff] at hend
    rcases hend with hend | ⟨-, hend⟩
    · exact absurd (hmiddle _ (List.mem_of_getLast? hend)) (by decide)
    · exact hlast hend
  rw [tableOf, htrim, Text.dropEnd_append_replicate hopen,
    Text.trimChars_append_blanks (Text.trimmed_trimChars table) hmiddle]
  exact if_neg (by simpa using hne)

theorem trimmed_tableOf {rest : List Char} {table : String}
    (h : tableOf rest = some table) : table ≠ "" ∧ Text.Trimmed table.toList := by
  obtain ⟨hne, htable⟩ := Option.ite_none_left_eq_some.1 h
  obtain rfl := Option.some.inj htable
  rw [String.toList_ofList]
  refine ⟨fun hempty => hne ?_, Text.trimmed_trimChars _⟩
  rw [String.ofList_eq_empty_iff] at hempty
  exact List.isEmpty_iff.2 hempty

/-! ## Splitting -/

/-- The name of an entity together with its table; any number of `)` and any blanks follow. -/
def written (entity table : String) (closing : Nat) (blanks : String) : String :=
  entity ++ "(" ++ table ++ String.ofList (List.replicate closing ')') ++ blanks

/-- Entity and table are read back as they were written, without the blanks around them. -/
theorem split_written {entity table blanks : String} (hentity : '(' ∉ entity.toList)
    (hne : Text.trim table ≠ "") (hlast : (Text.trim table).toList.getLast? ≠ some ')')
    (closing : Nat) (hblanks : ∀ c ∈ blanks.toList, Text.isBlank c = true) :
    split (written entity table closing blanks) = ⟨Text.trim entity, some (Text.trim table)⟩ := by
  have hname : (written entity table closing blanks).toList =
      entity.toList ++ '(' :: (table.toList ++ List.replicate closing ')' ++ blanks.toList) := by
    simp [written]
  have hpass := Text.forall_ne_of_not_mem hentity
  rw [Text.trim, ne_eq, String.ofList_eq_empty_iff] at hne
  rw [Text.trim, String.toList_ofList] at hlast
  have htable : tableOf (table.toList ++ List.replicate closing ')' ++ blanks.toList) =
      some (Text.trim table) :=
    tableOf_closed hne hlast closing hblanks
  rw [split, hname, List.takeWhile_append_of_pos hpass,
    List.takeWhile_cons_of_neg (by simp), List.append_nil, List.dropWhile_append_of_pos hpass,
    List.dropWhile_cons_of_neg (by simp)]
  exact congrArg (ClassName.mk (Text.trim entity)) htable

/-- A name without a `(` names no table. -/
theorem split_of_not_mem {name : String} (h : '(' ∉ name.toList) :
    split name = ⟨Text.trim name, none⟩ := by
  have hpass := Text.forall_ne_of_not_mem h
  rw [split, List.takeWhile_eq_self_iff.2 hpass, List.dropWhile_eq_nil_iff.2 hpass]
  rfl

/-- Names as they come from splitting. -/
structure Clean (names : ClassName) : Prop where
  entity_plain : '(' ∉ names.entity.toList
  entity_trimmed : Text.Trimmed names.entity.toList
  table_ne_empty : ∀ table, names.table = some table → table ≠ ""
  table_trimmed : ∀ table, names.table = some table → Text.Trimmed table.toList

theorem clean_split (name : String) : (split name).Clean := by
  have htable : ∀ table, (split name).table = some table →
      table ≠ "" ∧ Text.Trimmed table.toList := by
    intro table h
    rw [split] at h
    dsimp only at h
    split at h
    · cases h
    · exact trimmed_tableOf h
  refine ⟨?_, ?_, fun table h => (htable table h).1, fun table h => (htable table h).2⟩
  · rw [split, String.toList_ofList]
    intro hmem
    have hpass := List.mem_takeWhile_imp (Text.mem_of_mem_trimChars hmem)
    exact absurd hpass (by decide)
  · rw [split, String.toList_ofList]
    exact Text.trimmed_trimChars _

/-- Splitting undoes the notation for an entity with a table, leaves a name without a `(` as it is
but for the blanks around it, and gives clean names in any case. -/
theorem split_undoes_notation :
    (∀ entity table closing blanks, '(' ∉ entity.toList → Text.trim table ≠ "" →
      (Text.trim table).toList.getLast? ≠ some ')' →
      (∀ c ∈ blanks.toList, Text.isBlank c = true) →
        split (written entity table closing blanks) =
          ⟨Text.trim entity, some (Text.trim table)⟩) ∧
    (∀ name, '(' ∉ name.toList → split name = ⟨Text.trim name, none⟩) ∧
    ∀ name, (split name).Clean := by
  refine ⟨?_, ?_, clean_split⟩
  · intro entity table closing blanks hentity hne hlast hblanks
    exact split_written hentity hne hlast closing hblanks
  · intro name h
    exact split_of_not_mem h

/-- A table with parentheses of its own, closed twice; and a name that has no table. -/
theorem split_undoes_notation_orders :
    split "Order line ( t_order (old) lines\u00A0)) \t" =
        ⟨"Order line", some "t_order (old) lines"⟩ ∧
      split " Order) " = ⟨"Order)", none⟩ ∧
      (split "Order ( ) )").Clean := by
  obtain ⟨hwritten, hplain, hclean⟩ := split_undoes_notation
  have hentity : Text.trim "Order line " = "Order line" := by decide +kernel
  have htable : Text.trim " t_order (old) lines\u00A0" = "t_order (old) lines" := by decide +kernel
  have hsplit := hwritten "Order line " " t_order (old) lines\u00A0" 2 " \t" (by decide)
    (by rw [htable]; decide) (by rw [htable]; decide) (List.all_eq_true.1 (by decide))
  rw [hentity, htable] at hsplit
  have htrim : Text.trim " Order) " = "Order)" := by decide +kernel
  exact ⟨hsplit, htrim ▸ hplain " Order) " (by decide), hclean _⟩

end ClassDiagram.ClassName
