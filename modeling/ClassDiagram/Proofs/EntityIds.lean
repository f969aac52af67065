import ClassDiagram.Proofs.Membership

/-!
# Ids that a class shares with an interface

Classes and interfaces are kept in two maps, each under the ids of the elements of its
kind (`mem_keys_entities`).  Nothing keeps a class and an interface of a diagram from
having the same id.  Both are then stored under it, and looking it up finds the class
(`interface_behind_class`).

An interface is found under its id exactly if no class of the diagram has that id
(`entity?_of_interface_iff`).
-/

namespace ClassDiagram

open Script

/-- The ids of the stored classes, or interfaces, are those of the elements of the kind. -/
theorem mem_keys_entities {system : TypeSystem} {model : Xml.Node} {store : Store}
    (h : (readModel system model).result = .ok store) (kind : EntityKind) {id : ElementId} :
    id ∈ (store.entities kind).keys ↔ id ∈ idsOf (elementsOf (.entity kind) model) := by
  obtain ⟨hsucceeds, rfl⟩ := readModel_eq_ok_iff.1 h
  have hids := haveIds_of_declares (declares_written hsucceeds kind)
  rw [idsOf_eq_of_haveIds hids]
  exact (StorePart.entities kind).mem_keys_applyAll_empty

/-- Looking an id up finds an interface exactly if it is stored under the id and no class is. -/
theorem entity?_eq_interface_iff {store : Store} {id : ElementId} {entity : Entity} :
    store.entity? id = some (.interface, entity) ↔
      id ∉ store.classes.keys ∧ (id, entity) ∈ store.interfaces.entries := by
  rw [← OrderedMap.get?_eq_none_iff, ← OrderedMap.get?_eq_some_iff, Store.entity?]
  cases store.classes.get? id with
  | none => simp
  | some other => simp

/-- Both maps have an id exactly if a class and an interface of the diagram have it, and an
interface is found under its id exactly if no class of the diagram has it. -/
theorem entity?_of_interface_iff {system : TypeSystem} {model : Xml.Node} {store : Store}
    (h : (readModel system model).result = .ok store) :
    (∀ id, (id ∈ store.classes.keys ∧ id ∈ store.interfaces.keys) ↔
      id ∈ idsOf (elementsOf (.entity .concrete) model) ∧
        id ∈ idsOf (elementsOf (.entity .interface) model)) ∧
    ∀ id entity, (id, entity) ∈ store.interfaces.entries →
      (store.entity? id = some (.interface, entity) ↔
        id ∉ idsOf (elementsOf (.entity .concrete) model)) := by
  have hclasses : ∀ id, id ∈ store.classes.keys ↔
      id ∈ idsOf (elementsOf (.entity .concrete) model) := fun _ => mem_keys_entities h .concrete
  have hinterfaces : ∀ id, id ∈ store.interfaces.keys ↔
      id ∈ idsOf (elementsOf (.entity .interface) model) := fun _ => mem_keys_entities h .interface
  refine ⟨fun id => and_congr (hclasses id) (hinterfaces id), fun id entity hentity => ?_⟩
  rw [entity?_eq_interface_iff, and_iff_left hentity, hclasses]

/-- The interface of the shop is found under its id. -/
theorem entity?_of_interface_iff_shop :
    ∃ store entity, (readModel .sql shopModel).result = .ok store ∧
      ("i", entity) ∈ store.interfaces.entries ∧
      store.entity? "i" = some (.interface, entity) := by
  have hread : (readModel .sql shopModel).result.isOk = true := by decide +kernel
  obtain ⟨store, hstore⟩ := exists_eq_ok_of_isOk hread
  have hkey : "i" ∈ (store.entities .interface).keys :=
    (mem_keys_entities hstore .interface).2 (by decide +kernel)
  obtain ⟨⟨_, entity⟩, hentry, rfl⟩ := List.mem_map.1 hkey
  have hfound := ((entity?_of_interface_iff hstore).2 _ entity hentry).2 (by decide +kernel)
  exact ⟨store, entity, hstore, hentry, hfound⟩

/-- A class and an interface with the same id. -/
def twinModel : Xml.Node :=
  ((Xml.Node.ofTag modelTag).withChild (elementNamed "uml:Class" "x" "Order")).withChild
    (elementNamed "uml:Interface" "x" "Priced")

/-- The class and the interface are both stored under the id that they share, and the interface is
not what is found there. -/
theorem interface_behind_class :
    ∃ store entity, (readModel .sql twinModel).result = .ok store ∧
      "x" ∈ store.classes.keys ∧ ("x", entity) ∈ store.interfaces.entries ∧
      store.entity? "x" ≠ some (.interface, entity) := by
  have hread : (readModel .sql twinModel).result.isOk = true := by decide +kernel
  obtain ⟨store, hstore⟩ := exists_eq_ok_of_isOk hread
  have hclass : "x" ∈ store.classes.keys :=
    (mem_keys_entities hstore .concrete).2 (by decide +kernel)
  have hinterface : "x" ∈ store.interfaces.keys :=
    (mem_keys_entities hstore .interface).2 (by decide +kernel)
  obtain ⟨⟨_, entity⟩, hentry, rfl⟩ := List.mem_map.1 hinterface
  exact ⟨store, entity, hstore, hclass, hentry,
    fun hfound => (entity?_eq_interface_iff.1 hfound).1 hclass⟩

end ClassDiagram
