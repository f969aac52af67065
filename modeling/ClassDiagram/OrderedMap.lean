/-!
# Maps that keep the order of insertion

`OrderedMap κ υ` holds at most one value per key and lists its entries in the
order in which the keys first arrived.  Writing to a key that is present
replaces the value where it stands, so no write ever moves an entry.

The view of a map is its list of `entries`.  The lemmas say what each operation
does to the keys (`keys_insert`) and to look-up (`get?_insert`,
`get?_filterKeys`), and that two maps with the same entries are equal
(`OrderedMap.ext`).
-/

namespace ClassDiagram

variable {κ υ : Type}

/-- Entries with pairwise distinct keys, oldest key first. -/
@[ext]
structure OrderedMap (κ υ : Type) where
  /-- The entries in insertion order. -/
  entries : List (κ × υ)
  /-- No key occurs twice. -/
  nodup_keys : (entries.map Prod.fst).Nodup

namespace OrderedMap

/-! ## Writing into a list of entries -/

/-- Replaces the value of `key` in place, or appends a new entry. -/
def put [DecidableEq κ] (key : κ) (value : υ) : List (κ × υ) → List (κ × υ)
  | [] => [(key, value)]
  | entry :: rest =>
      if entry.1 = key then (key, value) :: rest else entry :: put key value rest

/-- A write keeps all keys where they are and adds a new key at the end. -/
theorem map_fst_put [DecidableEq κ] (key : κ) (value : υ) (entries : List (κ × υ)) :
    (put key value entries).map Prod.fst =
      if key ∈ entries.map Prod.fst then entries.map Prod.fst
      else entries.map Prod.fst ++ [key] := by
  induction entries with
  | nil => simp [put]
  | cons entry rest ih =>
      by_cases h : entry.1 = key
      · simp [put, h]
      · have h' : ¬key = entry.1 := fun e => h e.symm
        simp only [put, h, if_false, List.map_cons, ih, List.mem_cons, h', false_or]
        split <;> simp_all

/-- A write leaves the keys distinct. -/
theorem nodup_map_fst_put [DecidableEq κ] (key : κ) (value : υ) {entries : List (κ × υ)}
    (h : (entries.map Prod.fst).Nodup) :
    ((put key value entries).map Prod.fst).Nodup := by
  rw [map_fst_put]
  split
  · exact h
  · next hkey =>
      rw [List.nodup_append]
      refine ⟨h, by simp, ?_⟩
      intro a ha b hb
      simp only [List.mem_singleton] at hb
      subst hb
      exact fun e => hkey (e ▸ ha)

/-- After a write, look-up answers the new value at its key and is unchanged elsewhere. -/
theorem lookup_put [DecidableEq κ] (key key' : κ) (value : υ) (entries : List (κ × υ)) :
    (put key value entries).lookup key' =
      if key' = key then some value else entries.lookup key' := by
  induction entries with
  | nil =>
      by_cases h : key' = key
      · simp [put, h]
      · simp [put, List.lookup_cons, beq_eq_false_iff_ne.mpr h, h]
  | cons entry rest ih =>
      obtain ⟨k, v⟩ := entry
      by_cases hk : k = key
      · subst hk
        by_cases h : key' = k
        · simp [put, h]
        · simp [put, List.lookup_cons, beq_eq_false_iff_ne.mpr h, h]
      · by_cases h : key' = k
        · subst h
          simp [put, hk]
        · simp [put, hk, List.lookup_cons, beq_eq_false_iff_ne.mpr h, ih]

/-- In the entries whose key passes, look-up finds the keys that pass. -/
theorem lookup_filter [DecidableEq κ] (keep : κ → Bool) (key : κ) (entries : List (κ × υ)) :
    (entries.filter fun entry => keep entry.1).lookup key =
      if keep key then entries.lookup key else none := by
  induction entries with
  | nil => simp
  | cons entry rest ih =>
      obtain ⟨k, v⟩ := entry
      by_cases h : key = k
      · subst h
        cases hkeep : keep key with
        | true => simp [hkeep]
        | false => simpa [hkeep] using ih
      · have hdiffers : (key == k) = false := beq_eq_false_iff_ne.mpr h
        cases hkeep : keep k with
        | true => simp [hkeep, List.lookup_cons, hdiffers, ih]
        | false => simp [hkeep, List.lookup_cons, hdiffers, ih]

/-! ## The map -/

/-- The map without entries. -/
def empty : OrderedMap κ υ := ⟨[], List.nodup_nil⟩

instance : EmptyCollection (OrderedMap κ υ) := ⟨empty⟩

instance : Inhabited (OrderedMap κ υ) := ⟨empty⟩

/-- The keys, oldest first. -/
def keys (map : OrderedMap κ υ) : List κ := map.entries.map Prod.fst

/-- The values in the order of their keys. -/
def values (map : OrderedMap κ υ) : List υ := map.entries.map Prod.snd

/-- The number of entries. -/
def size (map : OrderedMap κ υ) : Nat := map.entries.length

/-- The value stored under `key`. -/
def get? [DecidableEq κ] (map : OrderedMap κ υ) (key : κ) : Option υ :=
  map.entries.lookup key

/-- Whether `key` has an entry. -/
def contains [DecidableEq κ] (map : OrderedMap κ υ) (key : κ) : Bool :=
  (map.get? key).isSome

/-- Stores `value` under `key`: in place if the key is present, else at the end. -/
def insert [DecidableEq κ] (map : OrderedMap κ υ) (key : κ) (value : υ) : OrderedMap κ υ :=
  ⟨put key value map.entries, nodup_map_fst_put key value map.nodup_keys⟩

/-- Drops the entries whose key fails `keep`; the others stay in order. -/
def filterKeys (map : OrderedMap κ υ) (keep : κ → Bool) : OrderedMap κ υ :=
  ⟨map.entries.filter fun entry => keep entry.1,
    map.nodup_keys.sublist (List.filter_sublist.map Prod.fst)⟩

@[simp] theorem keys_empty : (empty : OrderedMap κ υ).keys = [] := rfl

@[simp] theorem get?_empty [DecidableEq κ] (key : κ) :
    (empty : OrderedMap κ υ).get? key = none := rfl

/-- A write appends its key unless the key is present. -/
theorem keys_insert [DecidableEq κ] (map : OrderedMap κ υ) (key : κ) (value : υ) :
    (map.insert key value).keys =
      if key ∈ map.keys then map.keys else map.keys ++ [key] :=
  map_fst_put key value map.entries

/-- A write is seen at its own key only. -/
theorem get?_insert [DecidableEq κ] (map : OrderedMap κ υ) (key key' : κ) (value : υ) :
    (map.insert key value).get? key' = if key' = key then some value else map.get? key' :=
  lookup_put key key' value map.entries

/-- Look-up finds what was kept. -/
theorem get?_filterKeys [DecidableEq κ] (map : OrderedMap κ υ) (keep : κ → Bool) (key : κ) :
    (map.filterKeys keep).get? key = if keep key then map.get? key else none :=
  lookup_filter keep key map.entries

end OrderedMap

end ClassDiagram
