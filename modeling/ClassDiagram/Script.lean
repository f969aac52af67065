import ClassDiagram.Builder

/-!
# Scripts of edits

A `Script` says beforehand what a builder does: the edits that it makes to the
store, in order, and then either the result or the fault that stops it.  A script
is computed from an element alone.  What it does to a given store, and what is
reported on the way, is the matter of `Script.run`.

Edits made before a fault are kept, so a script that fails still says exactly
what it has changed.
-/

namespace ClassDiagram

/-! ## Edits -/

/-- One thing that reading does to the store. -/
inductive Edit where
  | registerType (id : ElementId) (name : String)
  | addEnumeration (id : ElementId) (enumeration : Enumeration)
  | addEntity (kind : EntityKind) (id : ElementId) (entity : Entity)
  | addField (id : ElementId) (field : Field)
  | addOperation (id : ElementId) (operation : Operation)
  | addAssociation (id : ElementId) (association : Association)
  /-- Takes the class for the user class unless there is one. -/
  | claimUserClass (id : ElementId)
  /-- Refers to a type by its id, which changes nothing. -/
  | referToType (field : String) (kind : EntityKind) (owner : String) (type : ElementId)
  /-- Reports something, which changes nothing. -/
  | report (notice : Notice)

namespace Edit

/-- The store after an edit. -/
def apply (edit : Edit) (store : Store) : Store :=
  match edit with
  | registerType id name => store.addType id ⟨name⟩
  | addEnumeration id enumeration => store.addEnumeration id enumeration
  | addEntity kind id entity => store.addEntity kind id entity
  | addField id field => store.addField id field
  | addOperation id operation => store.addOperation id operation
  | addAssociation id association => store.addAssociation id association
  | claimUserClass id => store.claimUserClass id
  | referToType .. | report _ => store

/-- What is reported when an edit is made to a store. -/
def notices (edit : Edit) (store : Store) : List Notice :=
  match edit with
  | registerType id name => [.registeredType name id]
  | claimUserClass id => if store.userClass.isNone then [.userClass id] else []
  | referToType field kind owner type =>
      if store.knowsType type then [] else [.unknownType field kind owner type]
  | report notice => [notice]
  | _ => []

/-- The store after some edits. -/
def applyAll (edits : List Edit) (store : Store) : Store :=
  edits.foldl (fun store edit => edit.apply store) store

/-- What is reported when edits are made one after the other. -/
def noticesOfAll : List Edit → Store → List Notice
  | [], _ => []
  | edit :: edits, store => edit.notices store ++ noticesOfAll edits (edit.apply store)

/-- The field that an edit adds. -/
def fieldId? : Edit → Option ElementId
  | addField id _ => some id
  | _ => none

/-- The operation that an edit adds. -/
def operationId? : Edit → Option ElementId
  | addOperation id _ => some id
  | _ => none

@[simp] theorem applyAll_nil (store : Store) : applyAll [] store = store := rfl

@[simp] theorem applyAll_cons (edit : Edit) (edits : List Edit) (store : Store) :
    applyAll (edit :: edits) store = applyAll edits (edit.apply store) := rfl

theorem applyAll_append (edits edits' : List Edit) (store : Store) :
    applyAll (edits ++ edits') store = applyAll edits' (applyAll edits store) :=
  List.foldl_append

theorem noticesOfAll_append (edits edits' : List Edit) (store : Store) :
    noticesOfAll (edits ++ edits') store =
      noticesOfAll edits store ++ noticesOfAll edits' (applyAll edits store) := by
  induction edits generalizing store with
  | nil => rfl
  | cons edit edits ih => simp [noticesOfAll, ih]

end Edit

/-! ## Scripts -/

/-- Edits, and what comes of them. -/
@[ext]
structure Script (α : Type) where
  edits : List Edit
  outcome : Except Fault α

namespace Script

variable {α β : Type}

/-- Makes no edit. -/
def ofExcept (outcome : Except Fault α) : Script α := ⟨[], outcome⟩

/-- Makes one edit. -/
def edit (edit : Edit) : Script Unit := ⟨[edit], .ok ()⟩

/-- Reports something. -/
def report (notice : Notice) : Script Unit := Script.edit (.report notice)

/-- Goes on with the result of a script, unless it failed. -/
def andThen (script : Script α) (next : α → Script β) : Script β :=
  match script.outcome with
  | .ok result => ⟨script.edits ++ (next result).edits, (next result).outcome⟩
  | .error fault => ⟨script.edits, .error fault⟩

instance : Monad Script where
  pure result := ⟨[], .ok result⟩
  bind := andThen

/-- The script with its own edits as its result. -/
def collecting (script : Script Unit) : Script (List Edit) :=
  ⟨script.edits, script.outcome.map fun _ => script.edits⟩

@[simp] theorem edits_pure (result : α) : (pure result : Script α).edits = [] := rfl

@[simp] theorem outcome_pure (result : α) : (pure result : Script α).outcome = .ok result := rfl

theorem bind_of_ok {script : Script α} {result : α} (h : script.outcome = .ok result)
    (next : α → Script β) :
    script >>= next = ⟨script.edits ++ (next result).edits, (next result).outcome⟩ := by
  show script.andThen next = _
  simp [andThen, h]

theorem bind_of_error {script : Script α} {fault : Fault} (h : script.outcome = .error fault)
    (next : α → Script β) : script >>= next = ⟨script.edits, .error fault⟩ := by
  show script.andThen next = _
  simp [andThen, h]

instance : LawfulMonad Script :=
  LawfulMonad.mk' Script
    (fun script => by
      cases h : script.outcome with
      | ok result => ext1 <;> simp [Functor.map, andThen, h]
      | error fault => ext1 <;> simp [Functor.map, andThen, h])
    (fun result next => by
      rw [bind_of_ok (outcome_pure result)]
      simp)
    (fun script next last => by
      cases h : script.outcome with
      | error fault =>
          rw [bind_of_error h, bind_of_error rfl, bind_of_error h]
      | ok result =>
          rw [bind_of_ok h, bind_of_ok h]
          cases h' : (next result).outcome with
          | error fault => rw [bind_of_error rfl, bind_of_error h']
          | ok result' =>
              rw [bind_of_ok rfl, bind_of_ok h']
              simp)

/-! ## Running -/

/-- Makes the edits of a script to a store. -/
def run (script : Script α) (store : Store) : Run Store α where
  result := script.outcome
  state := Edit.applyAll script.edits store
  notices := Edit.noticesOfAll script.edits store

end Script

end ClassDiagram
