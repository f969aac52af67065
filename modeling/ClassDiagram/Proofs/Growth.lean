import ClassDiagram.Proofs.Repetition
import Mathlib.Logic.Relation

/-!
# Stores only grow

Whatever is done to a store, elements are added behind those that are there or in their
place.  A `Step` is one such thing: an element is added by itself, a builder is run, which
may fail and leave what it has done so far, or a whole stage is run.  Every step is a list
of edits, and so is every run of steps (`exists_applyAll_of_steps`).  Edits keep the keys of
each map where they are, and the user class once there is one (`extends_applyAll`).
-/

namespace ClassDiagram

open Relation Script

/-! ## Steps -/

/-- One thing that is done to a store. -/
inductive Step : Store → Store → Prop
  | addType (store : Store) (id : ElementId) (type : DataType) :
      Step store (store.addType id type)
  | addEnumeration (store : Store) (id : ElementId) (enumeration : Enumeration) :
      Step store (store.addEnumeration id enumeration)
  | addEntity (store : Store) (kind : EntityKind) (id : ElementId) (entity : Entity) :
      Step store (store.addEntity kind id entity)
  | addField (store : Store) (id : ElementId) (field : Field) :
      Step store (store.addField id field)
  | addOperation (store : Store) (id : ElementId) (operation : Operation) :
      Step store (store.addOperation id operation)
  | addAssociation (store : Store) (id : ElementId) (association : Association) :
      Step store (store.addAssociation id association)
  | claimUserClass (store : Store) (id : ElementId) : Step store (store.claimUserClass id)
  /-- The name may be none of the type system, and then nothing is done. -/
  | enterType (store : Store) (system : TypeSystem) (name : String) (id : ElementId) :
      Step store ((ClassDiagram.enterType system name id).run store).store
  /-- The members before one that is refused are entered. -/
  | buildMembers (store : Store) (entity : Entity) (system : TypeSystem) (owner : Owner)
      (node : Xml.Node) :
      Step store ((ClassDiagram.buildMembers system owner node).run ⟨entity, store⟩).state.store
  /-- Of an entity that is refused there may be the claim to be the user class and members. -/
  | buildEntity (store : Store) (system : TypeSystem) (kind : EntityKind) (node : Xml.Node) :
      Step store ((ClassDiagram.buildEntity system kind node).run store).store
  | runStage {store store' : Store} (system : TypeSystem) (packages : Packages)
      (kind : ElementKind) (h : ClassDiagram.runStage system packages kind store = .ok store') :
      Step store store'

/-- A step makes some edits. -/
theorem exists_applyAll_of_step {store store' : Store} (h : Step store store') :
    ∃ edits, store' = Edit.applyAll edits store := by
  cases h with
  | addType id type => exact ⟨[.registerType id type.name], rfl⟩
  | addEnumeration id enumeration => exact ⟨[.addEnumeration id enumeration], rfl⟩
  | addEntity kind id entity => exact ⟨[.addEntity kind id entity], rfl⟩
  | addField id field => exact ⟨[.addField id field], rfl⟩
  | addOperation id operation => exact ⟨[.addOperation id operation], rfl⟩
  | addAssociation id association => exact ⟨[.addAssociation id association], rfl⟩
  | claimUserClass id => exact ⟨[.claimUserClass id], rfl⟩
  | enterType system name id =>
      rw [enterType_eq, run_replay]
      exact ⟨_, rfl⟩
  | buildMembers entity system owner node =>
      rw [run_buildMembers]
      exact ⟨_, rfl⟩
  | buildEntity system kind node =>
      rw [buildEntity_eq, run_replay]
      exact ⟨_, rfl⟩
  | runStage system packages kind h =>
      rw [runStage_eq] at h
      exact ⟨_, (finished_run_eq_ok_iff.1 h).2.symm⟩

/-- Steps make the edits of each of them, one after the other. -/
theorem exists_applyAll_of_steps {store store' : Store} (h : ReflTransGen Step store store') :
    ∃ edits, store' = Edit.applyAll edits store := by
  induction h with
  | refl => exact ⟨[], rfl⟩
  | tail _ hstep ih =>
      obtain ⟨edits, rfl⟩ := ih
      obtain ⟨edits', rfl⟩ := exists_applyAll_of_step hstep
      exact ⟨edits ++ edits', (Edit.applyAll_append edits edits' store).symm⟩

/-! ## What steps keep -/

/-- The keys of the seven maps of a store. -/
def Store.keySequences (store : Store) : List (List ElementId) :=
  [store.types.keys, store.enumerations.keys, store.classes.keys, store.interfaces.keys,
    store.fields.keys, store.operations.keys, store.associations.keys]

/-- The later store has what the earlier one has, under keys at the same places. -/
structure Extends (store store' : Store) : Prop where
  /-- No key goes away or moves. -/
  prefixes : List.Forall₂ (· <+: ·) store.keySequences store'.keySequences
  /-- No key is there twice. -/
  nodup : ∀ keys ∈ store'.keySequences, keys.Nodup
  /-- The user class stays. -/
  userClass : ∀ id, store.userClass = some id → store'.userClass = some id

/-- Edits keep the keys of a map where they are. -/
theorem StorePart.keys_prefix_applyAll {υ : Type} (part : StorePart υ) (edits : List Edit)
    (store : Store) : (part.map store).keys <+: (part.map (Edit.applyAll edits store)).keys := by
  rw [part.map_applyAll, OrderedMap.keys_insertAll]
  exact List.prefix_append _ _

theorem Store.nodup_of_mem_keySequences {store : Store} {keys : List ElementId}
    (h : keys ∈ store.keySequences) : keys.Nodup := by
  simp only [Store.keySequences, List.mem_cons, List.not_mem_nil, or_false] at h
  rcases h with rfl | rfl | rfl | rfl | rfl | rfl | rfl <;> exact OrderedMap.nodup_keys _

theorem extends_applyAll (edits : List Edit) (store : Store) :
    Extends store (Edit.applyAll edits store) where
  prefixes := by
    have hkeys : ∀ {υ : Type} (part : StorePart υ),
        (part.map store).keys <+: (part.map (Edit.applyAll edits store)).keys :=
      fun part => part.keys_prefix_applyAll edits store
    exact .cons (hkeys .types) <| .cons (hkeys .enumerations) <|
      .cons (hkeys (.entities .concrete)) <| .cons (hkeys (.entities .interface)) <|
      .cons (hkeys .fields) <| .cons (hkeys .operations) <|
      .cons (hkeys .associations) .nil
  nodup := fun _ => Store.nodup_of_mem_keySequences
  userClass := fun id hid => by rw [userClass_applyAll, hid, Option.some_or]

/-- Whatever steps are made, and whether or not the builders among them end well, the keys of each
map are those that it had, at the same places, and then new ones; none is there twice, and the user
class is never another one. -/
theorem extends_of_steps {store store' : Store} (h : ReflTransGen Step store store') :
    Extends store store' := by
  obtain ⟨edits, rfl⟩ := exists_applyAll_of_steps h
  exact extends_applyAll edits store

/-- A class that is named as the user class and has an attribute of a type from outside, but no id
for the attribute. -/
def unfinishedClass : Xml.Node :=
  (elementNamed "uml:Class" "c" "User").withChild
    (((Xml.Node.ofTag attributeTag).withAttribute "name" "age").withChild
      ((Xml.Node.ofTag "type").withAttribute "href" "types.uml#long"))

/-- The class is refused, but the type of its attribute is there behind the other types; then the
stage of types is run. -/
theorem extends_of_steps_unfinished :
    ∃ store, ReflTransGen Step usedStore store ∧ Extends usedStore store ∧
      ((buildEntity .sql .concrete unfinishedClass).run usedStore).result.isOk = false ∧
      store.types.keys = ["String", "Long", "t"] ∧ store.userClass = some "u" := by
  let built := ((buildEntity .sql .concrete unfinishedClass).run usedStore).store
  have hrun : (runStage .sql (Packages.ofModel (labelModel "t" "integer")) .type built).map
      (fun store => store.types.keys) = .ok ["String", "Long", "t"] := by
    decide +kernel
  obtain ⟨store, hstore, hkeys⟩ := map_eq_ok.1 hrun
  have hsteps : ReflTransGen Step usedStore store :=
    (ReflTransGen.single (.buildEntity usedStore .sql .concrete unfinishedClass)).tail
      (.runStage _ _ _ hstore)
  have hextends := extends_of_steps hsteps
  exact ⟨store, hsteps, hextends, by decide +kernel, hkeys, hextends.userClass "u" rfl⟩

end ClassDiagram
