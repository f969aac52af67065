import ClassDiagram.Declaration
import ClassDiagram.Proofs.Membership

/-!
# Declarations come from the interfaces alone

Declarations are written from the store of a whole diagram.  Its maps of members
are filled by classes too, and a class may enter a member under the id of a
member of an interface.  But interfaces are read last, so that under the ids that
they list the store holds what they have entered themselves
(`get?_member_of_interface`).  It therefore makes no difference to the
declarations if everything but the interfaces is left out of the store
(`interfaces_interfaceStore`).
-/

namespace ClassDiagram

open Script

variable {υ : Type}

/-- The edits that interfaces make, one interface after the other. -/
def interfaceEdits (system : TypeSystem) (interfaces : List Xml.Node) : List Edit :=
  interfaces.flatMap fun node => (recordElement system (.entity .interface) node).edits

/-- The store of a diagram that has nothing but these interfaces. -/
def interfaceStore (system : TypeSystem) (interfaces : List Xml.Node) : Store :=
  Edit.applyAll (interfaceEdits system interfaces) Store.empty

theorem written_interfaceEdits (part : StorePart υ) (system : TypeSystem)
    (interfaces : List Xml.Node) :
    part.written (interfaceEdits system interfaces) = interfaces.flatMap fun node =>
      part.written (recordElement system (.entity .interface) node).edits :=
  part.written_flatMap _ _

section

variable {system : TypeSystem} {model : Xml.Node} {store : Store}
  (h : (readModel system model).result = .ok store)

include h

/-- No element of another kind enters an interface. -/
theorem interfaces_eq_interfaceStore :
    store.interfaces =
      (interfaceStore system (elementsOf (.entity .interface) model)).interfaces := by
  obtain ⟨hsucceeds, rfl⟩ := readModel_eq_ok_iff.1 h
  show (StorePart.entities .interface).map _ = (StorePart.entities .interface).map _
  rw [interfaceStore, StorePart.map_applyAll, StorePart.map_applyAll, written_interfaceEdits,
    written_of_kind hsucceeds (entities_writtenBy .interface)]

/-- Interfaces enter their members last, after whatever the classes have entered. -/
theorem exists_insertAll_interfaceEdits (part : MemberPart υ) :
    ∃ before : OrderedMap ElementId υ, part.map store = before.insertAll
      (part.written (interfaceEdits system (elementsOf (.entity .interface) model))) := by
  obtain ⟨hsucceeds, rfl⟩ := readModel_eq_ok_iff.1 h
  rw [StorePart.map_applyAll, written_members hsucceeds, OrderedMap.insertAll_append,
    written_interfaceEdits]
  exact ⟨_, rfl⟩

/-- An interface lists only members that interfaces enter. -/
theorem mem_written_of_mem_list (part : MemberPart υ) {entity : Entity}
    (hentity : entity ∈ store.interfaces.values) {id : ElementId} (hid : id ∈ part.list entity) :
    id ∈ (part.written (interfaceEdits system (elementsOf (.entity .interface) model))).map
      Prod.fst := by
  obtain ⟨entry, hentry, rfl⟩ := List.mem_map.1 hentity
  have hentry : entry ∈ (store.entities .interface).entries := hentry
  obtain ⟨node, hnode, hdeclares⟩ := exists_declares_of_mem_entities h hentry
  rw [hdeclares.list_eq part] at hid
  rw [written_interfaceEdits, List.map_flatMap]
  exact List.mem_flatMap.2 ⟨node, hnode, hid⟩

/-- Under the id of a member that an interface lists stands what an interface has entered, even
if a class has entered a member under the same id. -/
theorem get?_member_of_interface (part : MemberPart υ) {entity : Entity}
    (hentity : entity ∈ store.interfaces.values) {id : ElementId} (hid : id ∈ part.list entity) :
    (part.map store).get? id =
      (part.map (interfaceStore system (elementsOf (.entity .interface) model))).get? id := by
  obtain ⟨before, hbefore⟩ := exists_insertAll_interfaceEdits h part
  rw [hbefore, interfaceStore, StorePart.map_applyAll]
  exact OrderedMap.get?_insertAll_of_mem (mem_written_of_mem_list h part hentity hid) _ _

/-- An interface is declared as it would be if the diagram had nothing but interfaces. -/
theorem entity_interfaceStore {entity : Entity} (hentity : entity ∈ store.interfaces.values)
    (names : ParameterNames) :
    Declaration.entity names store entity = Declaration.entity names
      (interfaceStore system (elementsOf (.entity .interface) model)) entity := by
  have hfields : store.fieldsOf entity =
      (interfaceStore system (elementsOf (.entity .interface) model)).fieldsOf entity :=
    List.filterMap_congr fun _ hid => get?_member_of_interface h .fields hentity hid
  have hoperations : store.operationsOf entity =
      (interfaceStore system (elementsOf (.entity .interface) model)).operationsOf entity :=
    List.filterMap_congr fun _ hid => get?_member_of_interface h .operations hentity hid
  rw [Declaration.entity, Declaration.entity, hfields, hoperations]

/-- The declarations are those of a diagram that has nothing but the interfaces. -/
theorem interfaces_interfaceStore (names : ParameterNames) :
    Declaration.interfaces names store = Declaration.interfaces names
      (interfaceStore system (elementsOf (.entity .interface) model)) := by
  rw [Declaration.interfaces, Declaration.interfaces, ← interfaces_eq_interfaceStore h]
  congr 1
  exact List.map_congr_left fun _ hentity => entity_interfaceStore h hentity names

end

/-- Two diagrams with the same interfaces have the same declarations, whatever else is in them. -/
theorem declarations_eq_of_interfaces_eq {system : TypeSystem} {model model' : Xml.Node}
    {store store' : Store} (h : (readModel system model).result = .ok store)
    (h' : (readModel system model').result = .ok store')
    (hsame : elementsOf (.entity .interface) model = elementsOf (.entity .interface) model')
    (names : ParameterNames) :
    Declaration.interfaces names store = Declaration.interfaces names store' := by
  rw [interfaces_interfaceStore h, interfaces_interfaceStore h', hsame]

/-- The shop with a second class, whose attribute has the id of that of the interface. -/
def rivalModel : Xml.Node :=
  shopModel.withChild ((elementNamed "uml:Class" "r" "Rival").withChild
    (memberNamed attributeTag "p" "rank" "number"))

/-- The shop and its rival have the same declarations. -/
theorem declarations_eq_of_interfaces_eq_rival :
    ∃ store store', (readModel .sql shopModel).result = .ok store ∧
      (readModel .sql rivalModel).result = .ok store' ∧
      elementsOf (.entity .interface) shopModel = elementsOf (.entity .interface) rivalModel ∧
      Declaration.interfaces .declared store = Declaration.interfaces .declared store' := by
  have hread : (readModel .sql shopModel).result.isOk = true := by decide +kernel
  have hread' : (readModel .sql rivalModel).result.isOk = true := by decide +kernel
  have hsame : elementsOf (.entity .interface) shopModel =
      elementsOf (.entity .interface) rivalModel := by rfl
  obtain ⟨store, hstore⟩ := exists_eq_ok_of_isOk hread
  obtain ⟨store', hstore'⟩ := exists_eq_ok_of_isOk hread'
  exact ⟨store, store', hstore, hstore', hsame,
    declarations_eq_of_interfaces_eq hstore hstore' hsame .declared⟩

end ClassDiagram
