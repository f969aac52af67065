import ClassDiagram.Element.Entity
import ClassDiagram.Proofs.Script

/-!
# The parts of reading a class or an interface

An entity is entered in three parts: its names and its id are read, a class that
is the user class says so, and then the members and the entity itself are
entered.  `recordEntity_eq` takes `recordEntity` apart into these, and
`edits_recordEntity` says which edits are made when all parts end well.
-/

namespace ClassDiagram

open Script

/-- The names of an entity are those in the attribute for names. -/
theorem split_of_readClassName {kind : EntityKind} {node : Xml.Node} {names : ClassName}
    (h : readClassName kind node = .ok names) :
    names = ClassName.split ((node.text? "name").getD "") := by
  unfold readClassName at h
  split at h
  · cases h
  · next name hname =>
      rw [hname, Option.getD_some]
      dsimp only at h
      split at h
      · cases h
      · exact (Except.ok.inj h).symm

/-- An entity that is read has a name. -/
theorem entity_ne_empty_of_readClassName {kind : EntityKind} {node : Xml.Node} {names : ClassName}
    (h : readClassName kind node = .ok names) : names.entity ≠ "" := by
  unfold readClassName at h
  split at h
  · cases h
  · dsimp only at h
    split at h
    · cases h
    · next hne => exact Except.ok.inj h ▸ hne

/-- Makes the claim to be the user class, if there is one to make. -/
def claimPlace (kind : EntityKind) (names : ClassName) (id : ElementId) : Script Unit :=
  if isUserClass kind names then Script.edit (.claimUserClass id) else pure ()

/-- The entity that a member belongs to. -/
def ownerOf (kind : EntityKind) (names : ClassName) (id : ElementId) : Owner :=
  ⟨id, kind, Text.upperFirst names.entity⟩

/-- The edits that report an entity and enter it. -/
def entering (kind : EntityKind) (id : ElementId) (entity : Entity) : List Edit :=
  [.report (.builtEntity kind entity.name entity.fields.length entity.operations.length),
    .addEntity kind id entity]

/-- Enters the members of an entity whose names and id are known, and then the entity. -/
def recordBody (system : TypeSystem) (kind : EntityKind) (names : ClassName) (id : ElementId)
    (node : Xml.Node) : Script ElementId := do
  let edits ← (recordMembers system (ownerOf kind names id) node).collecting
  let entity := (entityNamed names node).withMembersOf edits
  Script.report
    (.builtEntity kind entity.name entity.fields.length entity.operations.length)
  Script.edit (.addEntity kind id entity)
  return id

/-- An entity is its names, its id, its claim to be the user class and its body, in this order. -/
theorem recordEntity_eq (system : TypeSystem) (kind : EntityKind) (node : Xml.Node) :
    recordEntity system kind node = (do
      let names ← Script.ofExcept (readClassName kind node)
      let id ← Script.ofExcept (elementId node)
      claimPlace kind names id
      recordBody system kind names id node) := by
  unfold recordEntity claimPlace recordBody
  congr 1
  funext names
  congr 1
  funext id
  by_cases huser : isUserClass kind names
  · simp only [huser, if_true]
    rfl
  · simp only [huser]
    rfl

theorem succeeds_claimPlace (kind : EntityKind) (names : ClassName) (id : ElementId) :
    (claimPlace kind names id).Succeeds := by
  unfold claimPlace
  split
  · exact succeeds_edit _
  · exact succeeds_pure _

theorem succeeds_recordBody {system : TypeSystem} {kind : EntityKind} {names : ClassName}
    {id : ElementId} {node : Xml.Node} :
    (recordBody system kind names id node).Succeeds ↔
      (recordMembers system (ownerOf kind names id) node).Succeeds := by
  unfold recordBody
  rw [succeeds_bind_left fun _ => ⟨id, rfl⟩, succeeds_collecting]

end ClassDiagram
