import ClassDiagram.Model.Entity

/-!
# Associations

An association joins two classes.  Its cardinality says for each end whether
many objects can stand there.
-/

namespace ClassDiagram

/-- How many objects stand at the two ends. -/
inductive Cardinality where
  | oneToOne
  | oneToMany
  | manyToOne
  | manyToMany
deriving DecidableEq

namespace Cardinality

/-- The cardinality by the two ends: the first word of its name speaks of `from`. -/
def ofEnds (toMany fromMany : Bool) : Cardinality :=
  match toMany, fromMany with
  | true, true => manyToMany
  | true, false => oneToMany
  | false, true => manyToOne
  | false, false => oneToOne

/-- The name of the cardinality. -/
def text : Cardinality → String
  | oneToOne => "ONE_TO_ONE"
  | oneToMany => "ONE_TO_MANY"
  | manyToOne => "MANY_TO_ONE"
  | manyToMany => "MANY_TO_MANY"

/-- The same association seen from its other end. -/
def reversed : Cardinality → Cardinality
  | oneToOne => oneToOne
  | oneToMany => manyToOne
  | manyToOne => oneToMany
  | manyToMany => manyToMany

/-- Exchanging the ends reverses the cardinality. -/
theorem ofEnds_swap (toMany fromMany : Bool) :
    ofEnds fromMany toMany = (ofEnds toMany fromMany).reversed := by
  cases toMany <;> cases fromMany <;> rfl

end Cardinality

/-- An association between two classes. -/
structure Association where
  /-- The class at the second end. -/
  source : ElementId
  /-- The class at the first end. -/
  target : ElementId
  /-- The field that the source gets for the target. -/
  fieldInSource : Option String
  /-- The field that the target gets for the source. -/
  fieldInTarget : Option String
  cardinality : Cardinality
  commentInSource : String
  commentInTarget : String
deriving DecidableEq

end ClassDiagram
