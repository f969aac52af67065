/-!
# Equality that ignores the case of ASCII letters

Only the letters `A` to `Z` and `a` to `z` have two forms here; every other
character, accented letters included, equals itself alone.  The relation is an
equivalence because it compares the folded texts.
-/

namespace ClassDiagram.Text

/-- The small form of an ASCII capital; any other character is kept. -/
def foldAscii (c : Char) : Char :=
  if 0x41 ≤ c.toNat ∧ c.toNat ≤ 0x5A then Char.ofNat (c.toNat + 0x20) else c

/-- The characters of a text with ASCII capitals made small. -/
def asciiFolded (text : String) : List Char :=
  text.toList.map foldAscii

/-- Whether two texts are equal up to the case of ASCII letters. -/
def equalIgnoringCase (a b : String) : Bool :=
  asciiFolded a == asciiFolded b

theorem equalIgnoringCase_iff {a b : String} :
    equalIgnoringCase a b = true ↔ asciiFolded a = asciiFolded b := by
  simp [equalIgnoringCase]

end ClassDiagram.Text
