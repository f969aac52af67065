import ClassDiagram.Proofs.Insertion
import ClassDiagram.Script

/-!
# The maps of a store

A store has seven maps, and an edit writes at most one entry, to one of them.
`StorePart` is such a map together with the entry that an edit writes to it, so
that what holds of all seven is said once: after some edits a map holds what it
held before and then the entries of these edits (`map_applyAll`).
-/

namespace ClassDiagram

/-- The classes or the interfaces of a store. -/
def Store.entities (store : Store) : EntityKind → OrderedMap ElementId Entity
  | .concrete => store.classes
  | .interface => store.interfaces

/-- A map of a store, and the entry that an edit writes to it. -/
structure StorePart (υ : Type) where
  map : Store → OrderedMap ElementId υ
  writes? : Edit → Option (ElementId × υ)
  /-- An edit does no more to the map than to write its entry. -/
  map_apply : ∀ (edit : Edit) (store : Store),
    map (edit.apply store) = (map store).insertAll (writes? edit).toList
  /-- Reports write nothing. -/
  writes?_report : ∀ notice : Notice, writes? (.report notice) = none
  map_empty : map Store.empty = ∅

namespace StorePart

/-! ## The seven maps -/

/-- The types. -/
def types : StorePart DataType where
  map := Store.types
  writes?
    | .registerType id name => some (id, ⟨name⟩)
    | _ => none
  map_apply edit store := by
    cases edit with
    | addEntity kind id entity => cases kind <;> rfl
    | _ => rfl
  writes?_report _ := rfl
  map_empty := rfl

/-- The enumerations. -/
def enumerations : StorePart Enumeration where
  map := Store.enumerations
  writes?
    | .addEnumeration id enumeration => some (id, enumeration)
    | _ => none
  map_apply edit store := by
    cases edit with
    | addEntity kind id entity => cases kind <;> rfl
    | _ => rfl
  writes?_report _ := rfl
  map_empty := rfl

/-- The classes or the interfaces. -/
def entities (kind : EntityKind) : StorePart Entity where
  map store := store.entities kind
  writes?
    | .addEntity kind' id entity => if kind' = kind then some (id, entity) else none
    | _ => none
  map_apply edit store := by
    cases edit with
    | addEntity kind' id entity => cases kind <;> cases kind' <;> rfl
    | _ => cases kind <;> rfl
  writes?_report _ := rfl
  map_empty := by cases kind <;> rfl

/-- The fields. -/
def fields : StorePart Field where
  map := Store.fields
  writes?
    | .addField id field => some (id, field)
    | _ => none
  map_apply edit store := by
    cases edit with
    | addEntity kind id entity => cases kind <;> rfl
    | _ => rfl
  writes?_report _ := rfl
  map_empty := rfl

/-- The operations. -/
def operations : StorePart Operation where
  map := Store.operations
  writes?
    | .addOperation id operation => some (id, operation)
    | _ => none
  map_apply edit store := by
    cases edit with
    | addEntity kind id entity => cases kind <;> rfl
    | _ => rfl
  writes?_report _ := rfl
  map_empty := rfl

/-- The associations. -/
def associations : StorePart Association where
  map := Store.associations
  writes?
    | .addAssociation id association => some (id, association)
    | _ => none
  map_apply edit store := by
    cases edit with
    | addEntity kind id entity => cases kind <;> rfl
    | _ => rfl
  writes?_report _ := rfl
  map_empty := rfl

/-- A store is made up of its seven maps and its user class. -/
theorem store_eq {store store' : Store}
    (hmaps : ∀ {υ : Type} (part : StorePart υ), part.map store = part.map store')
    (huser : store.userClass = store'.userClass) : store = store' := by
  have htypes := hmaps types
  have henumerations := hmaps enumerations
  have hclasses := hmaps (entities .concrete)
  have hinterfaces := hmaps (entities .interface)
  have hfields := hmaps fields
  have hoperations := hmaps operations
  have hassociations := hmaps associations
  cases store
  cases store'
  simp only [Store.mk.injEq]
  exact ⟨htypes, henumerations, hclasses, hinterfaces, hfields, hoperations, hassociations, huser⟩

/-! ## Many edits -/

variable {υ : Type}

/-- The entries that some edits write to a map, in order. -/
def written (part : StorePart υ) (edits : List Edit) : List (ElementId × υ) :=
  edits.filterMap part.writes?

@[simp]
theorem written_nil (part : StorePart υ) : part.written [] = [] := rfl

theorem written_cons (part : StorePart υ) (edit : Edit) (edits : List Edit) :
    part.written (edit :: edits) = (part.writes? edit).toList ++ part.written edits := by
  cases h : part.writes? edit with
  | none => simp [written, h]
  | some entry => simp [written, h]

@[simp]
theorem written_append (part : StorePart υ) (edits edits' : List Edit) :
    part.written (edits ++ edits') = part.written edits ++ part.written edits' :=
  List.filterMap_append

@[simp]
theorem written_report (part : StorePart υ) (notice : Notice) (edits : List Edit) :
    part.written (.report notice :: edits) = part.written edits :=
  List.filterMap_cons_none (part.writes?_report notice)

theorem written_flatMap {α : Type} (part : StorePart υ) (items : List α)
    (edits : α → List Edit) :
    part.written (items.flatMap edits) = items.flatMap fun item => part.written (edits item) :=
  List.filterMap_flatMap

/-- The ids of the entries that some edits write are those that the edits name one by one. -/
theorem filterMap_eq_map_written {part : StorePart υ} {id? : Edit → Option ElementId}
    (h : ∀ edit, id? edit = (part.writes? edit).map Prod.fst) (edits : List Edit) :
    edits.filterMap id? = (part.written edits).map Prod.fst := by
  have hid : id? = fun edit => (part.writes? edit).map Prod.fst := funext h
  rw [hid, written, List.map_filterMap]

/-- After some edits a map holds what it held before and then what they write to it. -/
theorem map_applyAll (part : StorePart υ) (edits : List Edit) (store : Store) :
    part.map (Edit.applyAll edits store) = (part.map store).insertAll (part.written edits) := by
  induction edits generalizing store with
  | nil => rfl
  | cons edit edits ih =>
      rw [Edit.applyAll_cons, ih, part.map_apply, ← OrderedMap.insertAll_append, written_cons]

/-- A map that was empty lists what edits have written to it under distinct ids. -/
theorem entries_applyAll_empty (part : StorePart υ) {edits : List Edit}
    (h : ((part.written edits).map Prod.fst).Nodup) :
    (part.map (Edit.applyAll edits Store.empty)).entries = part.written edits := by
  rw [map_applyAll, part.map_empty, OrderedMap.entries_insertAll_empty h]

/-- The ids in a map that was empty are those of the entries that edits have written to it. -/
theorem mem_keys_applyAll_empty (part : StorePart υ) {edits : List Edit} {id : ElementId} :
    id ∈ (part.map (Edit.applyAll edits Store.empty)).keys ↔
      id ∈ (part.written edits).map Prod.fst := by
  have hempty : id ∉ (∅ : OrderedMap ElementId υ).keys := List.not_mem_nil
  rw [map_applyAll, part.map_empty, OrderedMap.mem_keys_insertAll, or_iff_right hempty]

/-- A map that was empty lists nothing that the edits have not written to it. -/
theorem mem_written_of_mem_applyAll_empty (part : StorePart υ) {edits : List Edit}
    {entry : ElementId × υ}
    (h : entry ∈ (part.map (Edit.applyAll edits Store.empty)).entries) :
    entry ∈ part.written edits := by
  rw [map_applyAll, part.map_empty] at h
  exact OrderedMap.mem_of_mem_insertAll_empty h

end StorePart

end ClassDiagram
