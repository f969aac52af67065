import ClassDiagram.OrderedMap
import Mathlib.Data.List.Basic
import Mathlib.Data.List.Induction

/-!
# Writing many entries into a map

`insertAll` stores entries one after the other.  Entries whose keys are new and
distinct are appended as they are (`entries_insertAll`), so a map that is empty
at first lists exactly the entries written to it.

A key belongs to one entry only, which look-up finds (`get?_eq_some_iff`).  After
many writes it finds the last one under the key (`get?_insertAll`).

The order of its keys and what look-up finds make up a map (`eq_of_keys_of_get?`).
Several writes under one key therefore come to a single one, the last, made where the
first was (`insertAll_entries_insertAll`).
-/

namespace ClassDiagram.OrderedMap

variable {κ υ : Type} [DecidableEq κ]

/-- Stores entries one after the other. -/
def insertAll (map : OrderedMap κ υ) (entries : List (κ × υ)) : OrderedMap κ υ :=
  entries.foldl (fun map entry => map.insert entry.1 entry.2) map

@[simp]
theorem insertAll_nil (map : OrderedMap κ υ) : map.insertAll [] = map := rfl

@[simp]
theorem insertAll_cons (map : OrderedMap κ υ) (entry : κ × υ) (entries : List (κ × υ)) :
    map.insertAll (entry :: entries) = (map.insert entry.1 entry.2).insertAll entries := rfl

theorem insertAll_append (map : OrderedMap κ υ) (entries entries' : List (κ × υ)) :
    map.insertAll (entries ++ entries') = (map.insertAll entries).insertAll entries' :=
  List.foldl_append

/-! ## New keys -/

theorem put_of_not_mem {key : κ} {value : υ} {entries : List (κ × υ)}
    (h : key ∉ entries.map Prod.fst) : put key value entries = entries ++ [(key, value)] := by
  induction entries with
  | nil => rfl
  | cons entry rest ih =>
      simp only [List.map_cons, List.mem_cons, not_or] at h
      have hkey : ¬entry.1 = key := fun heq => h.1 heq.symm
      simp only [put, hkey, if_false, List.cons_append, ih h.2]

/-- A write to a new key appends an entry. -/
theorem entries_insert_of_not_mem {map : OrderedMap κ υ} {key : κ} (h : key ∉ map.keys)
    (value : υ) : (map.insert key value).entries = map.entries ++ [(key, value)] :=
  put_of_not_mem h

/-- Entries with new and distinct keys are appended in order. -/
theorem entries_insertAll {map : OrderedMap κ υ} {entries : List (κ × υ)}
    (h : (map.keys ++ entries.map Prod.fst).Nodup) :
    (map.insertAll entries).entries = map.entries ++ entries := by
  induction entries generalizing map with
  | nil => simp
  | cons entry rest ih =>
      have hnew : entry.1 ∉ map.keys := by
        rw [List.nodup_append] at h
        intro hmem
        exact h.2.2 entry.1 hmem entry.1 (by simp) rfl
      have hkeys : (map.insert entry.1 entry.2).keys = map.keys ++ [entry.1] := by
        rw [keys_insert, if_neg hnew]
      have hrest : ((map.insert entry.1 entry.2).keys ++ rest.map Prod.fst).Nodup := by
        rw [hkeys, List.append_assoc]
        exact h
      rw [insertAll_cons, ih hrest, entries_insert_of_not_mem hnew, List.append_assoc,
        List.singleton_append]

/-- A map that is empty at first lists what is written to it under distinct keys. -/
theorem entries_insertAll_empty {entries : List (κ × υ)} (h : (entries.map Prod.fst).Nodup) :
    ((∅ : OrderedMap κ υ).insertAll entries).entries = entries := by
  have hnew : ((∅ : OrderedMap κ υ).keys ++ entries.map Prod.fst).Nodup := h
  exact entries_insertAll hnew

/-- The keys of a map are those that it had and those written to it. -/
theorem mem_keys_insertAll {map : OrderedMap κ υ} {entries : List (κ × υ)} {key : κ} :
    key ∈ (map.insertAll entries).keys ↔ key ∈ map.keys ∨ key ∈ entries.map Prod.fst := by
  induction entries generalizing map with
  | nil => simp
  | cons entry rest ih =>
      have hkeys : key ∈ (map.insert entry.1 entry.2).keys ↔ key ∈ map.keys ∨ key = entry.1 := by
        rw [keys_insert]
        split
        · next hmem => exact ⟨.inl, fun h => h.elim id fun heq => heq ▸ hmem⟩
        · simp
      rw [insertAll_cons, ih, hkeys, List.map_cons, List.mem_cons, or_assoc]

/-! ## Look-up -/

theorem lookup_eq_some_iff_mem {entries : List (κ × υ)} (h : (entries.map Prod.fst).Nodup)
    {key : κ} {value : υ} : entries.lookup key = some value ↔ (key, value) ∈ entries := by
  induction entries with
  | nil => simp
  | cons entry rest ih =>
      obtain ⟨first, other⟩ := entry
      rw [List.map_cons, List.nodup_cons] at h
      by_cases hkey : key = first
      · subst hkey
        have hrest : (key, value) ∉ rest := fun hmem => h.1 (List.mem_map.2 ⟨_, hmem, rfl⟩)
        simp [hrest, eq_comm]
      · simp [List.lookup_cons, beq_eq_false_iff_ne.2 hkey, hkey, ih h.2]

/-- Look-up finds exactly the entries of the map. -/
theorem get?_eq_some_iff {map : OrderedMap κ υ} {key : κ} {value : υ} :
    map.get? key = some value ↔ (key, value) ∈ map.entries :=
  lookup_eq_some_iff_mem map.nodup_keys

/-- Look-up finds nothing exactly under what is no key. -/
theorem get?_eq_none_iff {map : OrderedMap κ υ} {key : κ} :
    map.get? key = none ↔ key ∉ map.keys := by
  rw [Option.eq_none_iff_forall_ne_some]
  simp only [ne_eq, get?_eq_some_iff, keys, List.mem_map, not_exists, not_and]
  constructor
  · rintro h entry hentry rfl
    exact h entry.2 hentry
  · intro h value hentry
    exact h _ hentry rfl

/-- Looking up the keys of some entries of a map gives the values of these entries. -/
theorem filterMap_get? {map : OrderedMap κ υ} {entries : List (κ × υ)}
    (h : ∀ entry ∈ entries, entry ∈ map.entries) :
    (entries.map Prod.fst).filterMap map.get? = entries.map Prod.snd := by
  have hfound : ∀ entry ∈ entries, map.get? entry.1 = some entry.2 := fun entry hentry =>
    get?_eq_some_iff.2 (h entry hentry)
  rw [List.filterMap_map, ← List.filterMap_eq_map]
  exact List.filterMap_congr hfound

/-- Look-up finds what was stored last under the key, or else what the map held before. -/
theorem get?_insertAll (map : OrderedMap κ υ) (entries : List (κ × υ)) (key : κ) :
    (map.insertAll entries).get? key = (entries.reverse.lookup key).or (map.get? key) := by
  induction entries generalizing map with
  | nil => rfl
  | cons entry rest ih =>
      obtain ⟨first, value⟩ := entry
      have hlast : [(first, value)].lookup key = if key = first then some value else none := by
        by_cases hkey : key = first
        · simp [hkey]
        · simp [List.lookup_cons, beq_eq_false_iff_ne.2 hkey, hkey]
      rw [insertAll_cons, ih, get?_insert, List.reverse_cons, List.lookup_append, Option.or_assoc,
        hlast]
      by_cases hkey : key = first
      · simp only [if_pos hkey, Option.some_or]
      · simp only [if_neg hkey, Option.none_or]

/-- Where something has been stored under the key, it does not matter what the map held. -/
theorem get?_insertAll_of_mem {entries : List (κ × υ)} {key : κ}
    (h : key ∈ entries.map Prod.fst) (map map' : OrderedMap κ υ) :
    (map.insertAll entries).get? key = (map'.insertAll entries).get? key := by
  obtain ⟨entry, hentry, hkey⟩ := List.mem_map.1 h
  have hfound : (entries.reverse.lookup key).isSome :=
    List.lookup_isSome_iff.2 ⟨entry, List.mem_reverse.2 hentry, by simp [hkey]⟩
  obtain ⟨value, hvalue⟩ := Option.isSome_iff_exists.1 hfound
  rw [get?_insertAll, get?_insertAll, hvalue, Option.some_or, Option.some_or]

/-- A map that was empty at first lists no more than what was stored. -/
theorem mem_of_mem_insertAll_empty {entries : List (κ × υ)} {entry : κ × υ}
    (h : entry ∈ ((∅ : OrderedMap κ υ).insertAll entries).entries) : entry ∈ entries := by
  have hfound := get?_eq_some_iff.2 h
  have hempty : (∅ : OrderedMap κ υ).get? entry.1 = none := rfl
  rw [get?_insertAll, hempty, Option.or_none, List.lookup_eq_some_iff] at hfound
  obtain ⟨before, after, hsplit, -⟩ := hfound
  rw [← List.mem_reverse, hsplit]
  exact List.mem_append_right _ List.mem_cons_self

/-- Look-up finds what it would find had the map been empty at first, or else what the map held. -/
theorem get?_insertAll_eq_or (map : OrderedMap κ υ) (entries : List (κ × υ)) (key : κ) :
    (map.insertAll entries).get? key =
      (((∅ : OrderedMap κ υ).insertAll entries).get? key).or (map.get? key) := by
  have hempty : (∅ : OrderedMap κ υ).get? key = none := rfl
  rw [get?_insertAll, get?_insertAll, hempty, Option.or_none]

/-! ## Equal maps -/

/-- The entries of a map are its keys with what look-up finds there. -/
theorem entries_eq_filterMap (map : OrderedMap κ υ) :
    map.entries = map.keys.filterMap fun key => (map.get? key).map (key, ·) := by
  have hfound : ∀ entry ∈ map.entries,
      (map.get? entry.1).map (entry.1, ·) = some entry := by
    intro entry hentry
    rw [get?_eq_some_iff.2 hentry, Option.map_some]
  calc map.entries = map.entries.filterMap some := List.filterMap_some.symm
    _ = map.entries.filterMap fun entry => (map.get? entry.1).map (entry.1, ·) :=
      List.filterMap_congr fun entry hentry => (hfound entry hentry).symm
    _ = map.keys.filterMap fun key => (map.get? key).map (key, ·) := by
      rw [keys, List.filterMap_map]
      rfl

/-- Maps with the same keys in the same order, under which look-up finds the same, are equal. -/
theorem eq_of_keys_of_get? {map map' : OrderedMap κ υ} (hkeys : map.keys = map'.keys)
    (hget : ∀ key, map.get? key = map'.get? key) : map = map' := by
  apply OrderedMap.ext
  rw [entries_eq_filterMap map, entries_eq_filterMap map', hkeys]
  simp only [hget]

/-- The keys of a map stay where they are, and those that are new follow in the order in which
they would stand in a map that was empty at first. -/
theorem keys_insertAll (map : OrderedMap κ υ) (entries : List (κ × υ)) :
    (map.insertAll entries).keys =
      map.keys ++ ((∅ : OrderedMap κ υ).insertAll entries).keys.filter (· ∉ map.keys) := by
  induction entries using List.reverseRecOn with
  | nil => exact (List.append_nil _).symm
  | append_singleton entries entry ih =>
      have hmem : entry.1 ∈ (map.insertAll entries).keys ↔
          entry.1 ∈ map.keys ∨ entry.1 ∈ ((∅ : OrderedMap κ υ).insertAll entries).keys := by
        rw [ih, List.mem_append, List.mem_filter]
        by_cases hkey : entry.1 ∈ map.keys <;> simp [hkey]
      rw [insertAll_append, insertAll_append, insertAll_cons, insertAll_cons, insertAll_nil,
        insertAll_nil, keys_insert, keys_insert, ih]
      rw [ih] at hmem
      by_cases hold : entry.1 ∈ ((∅ : OrderedMap κ υ).insertAll entries).keys
      · rw [if_pos (hmem.2 (.inr hold)), if_pos hold]
      · rw [if_neg hold, List.filter_append]
        by_cases hkey : entry.1 ∈ map.keys
        · rw [if_pos (hmem.2 (.inl hkey))]
          simp [hkey]
        · rw [if_neg fun h => (hmem.1 h).elim hkey hold]
          simp [hkey]

/-- To write some entries to a map is to write the entries that they would leave in a map that was
empty at first. -/
theorem insertAll_entries_insertAll (map : OrderedMap κ υ) (entries : List (κ × υ)) :
    map.insertAll ((∅ : OrderedMap κ υ).insertAll entries).entries = map.insertAll entries := by
  let other := (∅ : OrderedMap κ υ).insertAll entries
  have hother : (∅ : OrderedMap κ υ).insertAll other.entries = other :=
    OrderedMap.ext (entries_insertAll_empty other.nodup_keys)
  apply eq_of_keys_of_get?
  · rw [keys_insertAll map other.entries, hother, keys_insertAll map entries]
  · intro key
    rw [get?_insertAll_eq_or map other.entries, hother, get?_insertAll_eq_or map entries]

/-- To write the same entries a second time changes nothing, whatever they have overwritten. -/
theorem insertAll_insertAll_self (map : OrderedMap κ υ) (entries : List (κ × υ)) :
    (map.insertAll entries).insertAll entries = map.insertAll entries := by
  apply eq_of_keys_of_get?
  · -- Every key that is written has been there since the first time.
    have hnone : ((∅ : OrderedMap κ υ).insertAll entries).keys.filter
        (· ∉ (map.insertAll entries).keys) = [] := by
      rw [List.filter_eq_nil_iff]
      intro key hkey
      have hwritten : key ∈ entries.map Prod.fst :=
        (mem_keys_insertAll.1 hkey).resolve_left List.not_mem_nil
      simp [mem_keys_insertAll.2 (.inr hwritten)]
    rw [keys_insertAll, hnone, List.append_nil]
  · intro key
    rw [get?_insertAll, get?_insertAll map, ← Option.or_assoc, Option.or_self]

/-- Where a map has the entries of two others and no more, look-up finds what it finds in the first
or else in the second. -/
theorem get?_eq_or_of_mem_iff {map first second : OrderedMap κ υ}
    (h : ∀ entry, entry ∈ map.entries ↔ entry ∈ first.entries ∨ entry ∈ second.entries)
    (key : κ) : map.get? key = (first.get? key).or (second.get? key) := by
  cases hfirst : first.get? key with
  | some value =>
      rw [Option.some_or, get?_eq_some_iff]
      exact (h _).2 (.inl (get?_eq_some_iff.1 hfirst))
  | none =>
      rw [Option.none_or]
      apply Option.ext
      intro value
      have hnot : (key, value) ∉ first.entries := by
        rw [← get?_eq_some_iff, hfirst]
        simp
      rw [get?_eq_some_iff, get?_eq_some_iff, h, or_iff_right hnot]

end ClassDiagram.OrderedMap
