import ClassDiagram.Model.Store
import ClassDiagram.Notice

/-!
# Builders

To read an element is to add to a store.  A `Builder` does so step by step: it looks
at the state that it has been given, changes it, reports what it does, and ends with
a result or with the fault that stopped it.  What it has changed before a fault stays
changed.

The members of a class or an interface are added to the entity and to the store at
once.  Their builders work on a `Draft`, which holds both.
-/

namespace ClassDiagram

/-! ## States -/

/-- A state, and what was reported while it was built. -/
structure Logged (σ : Type) where
  state : σ
  notices : List Notice

/-- An entity whose members are being read, and the store. -/
structure Draft where
  entity : Entity
  store : Store

namespace Draft

/-- Adds a field to the store and to the entity. -/
def addField (draft : Draft) (id : ElementId) (field : Field) : Draft where
  entity := draft.entity.addMembers [id] []
  store := draft.store.addField id field

/-- Adds an operation to the store and to the entity. -/
def addOperation (draft : Draft) (id : ElementId) (operation : Operation) : Draft where
  entity := draft.entity.addMembers [] [id]
  store := draft.store.addOperation id operation

end Draft

/-! ## Builders and their runs -/

/-- What adds to a state. -/
abbrev Builder (σ : Type) := ExceptT Fault (StateM (Logged σ))

/-- What a builder comes to. -/
structure Run (σ α : Type) where
  result : Except Fault α
  /-- The state as the builder leaves it, failed or not. -/
  state : σ
  notices : List Notice

namespace Run

variable {α : Type}

/-- The store after a run on a store. -/
abbrev store (run : Run Store α) : Store := run.state

/-- The store of a run that succeeded. -/
def finished (run : Run Store α) : Except Fault Store :=
  run.result.map fun _ => run.store

end Run

namespace Builder

variable {σ α : Type}

/-- Runs a builder on a state. -/
def run (builder : Builder σ α) (state : σ) : Run σ α :=
  let (result, logged) := builder ⟨state, []⟩
  ⟨result, logged.state, logged.notices⟩

/-- Looks at the state. -/
def look (view : σ → α) : Builder σ α := fun logged => (.ok (view logged.state), logged)

/-- Changes the state. -/
def change (update : σ → σ) : Builder σ Unit := fun logged =>
  (.ok (), { logged with state := update logged.state })

/-- Reports something. -/
def report (notice : Notice) : Builder σ Unit := fun logged =>
  (.ok (), { logged with notices := logged.notices ++ [notice] })

/-- Works on the store of a draft. -/
def onStore (builder : Builder Store α) : Builder Draft α := fun logged =>
  let (result, after) := builder ⟨logged.state.store, logged.notices⟩
  (result, ⟨⟨logged.state.entity, after.state⟩, after.notices⟩)

/-- Adds members to an entity, which is the result.  If that fails, the entity is given up. -/
def drafting (entity : Entity) (members : Builder Draft Unit) : Builder Store Entity :=
  fun logged =>
    let (result, after) := members ⟨⟨entity, logged.state⟩, logged.notices⟩
    (result.map fun _ => after.state.entity, ⟨after.state.store, after.notices⟩)

end Builder

end ClassDiagram
