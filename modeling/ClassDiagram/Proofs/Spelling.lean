import ClassDiagram.Text.Case
import ClassDiagram.TypeSystem

/-!
# The spelling of type names

A type system takes no notice of the case of ASCII letters, and of nothing else
(`canonical?_eq_iff`), and its own spellings stay as they are
(`canonical?_canonical`).  It has a spelling for every name that it lists in some
case (`canonical?_eq_none_iff`).

A capital therefore makes no difference to a name that begins with an ASCII
character (`canonical?_upperFirst`).  It may make one to other names, whose first
letter has a capital that a type system tells from it.
-/

namespace ClassDiagram

/-! ## ASCII characters in upper case -/

/-- Runs that start later do not map a code point. -/
theorem findSome?_image?_of_lt {runs : List Text.CaseRun} {bound code : Nat}
    (h : ∀ run ∈ runs, bound ≤ run.first) (hcode : code < bound) :
    runs.findSome? (·.image? code) = none := by
  rw [List.findSome?_eq_none_iff]
  intro run hrun
  have hfirst := h run hrun
  exact if_neg (by omega)

/-- Among the ASCII code points, only the small letters have another form in upper case. -/
theorem apply_upperTable_of_ascii {code : Nat} (h : code < 0x80) :
    Text.upperTable.apply code =
      if 0x61 ≤ code ∧ code ≤ 0x7A then [code - 0x20] else [code] := by
  have hexpansions : ∀ entry ∈ Text.upperTable.expansions, 0x80 ≤ entry.1 := by decide +kernel
  have hlookup : Text.upperTable.expansions.lookup code = none := by
    rw [List.lookup_eq_none_iff]
    intro entry hentry
    have hkey := hexpansions entry hentry
    have hne : code ≠ entry.1 := by omega
    exact bne_iff_ne.2 hne
  have hruns : ∀ run ∈ Text.upperTable.runs.tail, 0x80 ≤ run.first := by decide +kernel
  have hsplit : Text.upperTable.runs = ⟨0x61, 0x7A, 1, 0x41⟩ :: Text.upperTable.runs.tail := rfl
  rw [Text.CaseTable.apply, hlookup, hsplit, List.findSome?_cons,
    findSome?_image?_of_lt hruns h]
  by_cases hletter : 0x61 ≤ code ∧ code ≤ 0x7A
  · simp only [Text.CaseRun.image?, hletter, Nat.mod_one, and_self, if_true, Option.getD_some,
      List.cons.injEq, and_true]
    omega
  · simp [Text.CaseRun.image?, hletter, Nat.mod_one]

/-- Up to case, an ASCII character is its own form in upper case. -/
theorem map_foldAscii_upper {c : Char} (h : c.toNat < 0x80) :
    (Text.upper c).map Text.foldAscii = [Text.foldAscii c] := by
  have hall : ∀ code < 0x80, ((if 0x61 ≤ code ∧ code ≤ 0x7A then [code - 0x20] else [code]).map
      Char.ofNat).map Text.foldAscii = [Text.foldAscii (Char.ofNat code)] := by decide
  have hcode := hall c.toNat h
  rw [Char.ofNat_toNat] at hcode
  rw [Text.upper, apply_upperTable_of_ascii h]
  exact hcode

/-! ## Spellings -/

theorem canonical?_of_canonicalize {system : TypeSystem} {name canonical : String}
    (h : system.canonicalize name = .ok canonical) : system.canonical? name = some canonical := by
  unfold TypeSystem.canonicalize at h
  split at h
  · next hfound => rw [hfound, Except.ok.inj h]
  · cases h

theorem canonicalize_of_canonical? {system : TypeSystem} {name canonical : String}
    (h : system.canonical? name = some canonical) : system.canonicalize name = .ok canonical := by
  rw [TypeSystem.canonicalize, h]

/-- A spelling is one of the names of the type system. -/
theorem mem_typeNames_of_canonical? {system : TypeSystem} {name canonical : String}
    (h : system.canonical? name = some canonical) : canonical ∈ system.typeNames :=
  List.mem_of_find?_eq_some h

/-- No spelling is empty, unless the type system has the empty name. -/
theorem ne_empty_of_canonical? {system : TypeSystem} (hsystem : "" ∉ system.typeNames)
    {name canonical : String} (h : system.canonical? name = some canonical) : canonical ≠ "" := by
  rintro rfl
  exact hsystem (mem_typeNames_of_canonical? h)

/-- Up to case, a spelling is the name that it stands for. -/
theorem asciiFolded_of_canonical? {system : TypeSystem} {name canonical : String}
    (h : system.canonical? name = some canonical) :
    Text.asciiFolded canonical = Text.asciiFolded name :=
  Text.equalIgnoringCase_iff.1 (List.find?_some (p := (Text.equalIgnoringCase · name)) h)

/-- The names without a spelling are those that the type system does not have in any case. -/
theorem canonical?_eq_none_iff {system : TypeSystem} {name : String} :
    system.canonical? name = none ↔
      ∀ listed ∈ system.typeNames, Text.asciiFolded listed ≠ Text.asciiFolded name := by
  rw [TypeSystem.canonical?, List.find?_eq_none]
  simp only [Text.equalIgnoringCase_iff, ne_eq]

theorem canonicalize_of_canonical?_eq_none {system : TypeSystem} {name : String}
    (h : system.canonical? name = none) :
    system.canonicalize name = .error (.unsupportedType name system.name) := by
  rw [TypeSystem.canonicalize, h]

/-- Names that are equal up to case have the same spelling. -/
theorem canonical?_congr {system : TypeSystem} {name other : String}
    (h : Text.asciiFolded name = Text.asciiFolded other) :
    system.canonical? name = system.canonical? other := by
  have hsame : (Text.equalIgnoringCase · name) = (Text.equalIgnoringCase · other) := by
    funext listed
    rw [Text.equalIgnoringCase, Text.equalIgnoringCase, h]
  rw [TypeSystem.canonical?, hsame, TypeSystem.canonical?]

/-- The spelling of a name in a type system is its own spelling. -/
theorem canonical?_canonical {system : TypeSystem} {name canonical : String}
    (h : system.canonical? name = some canonical) :
    system.canonical? canonical = some canonical := by
  rw [canonical?_congr (asciiFolded_of_canonical? h), h]

/-- Up to case, a name that begins with an ASCII character is itself with a capital. -/
theorem asciiFolded_upperFirst {name : String} (h : ∀ c ∈ name.toList.head?, c.toNat < 0x80) :
    Text.asciiFolded (Text.upperFirst name) = Text.asciiFolded name := by
  rw [Text.asciiFolded, Text.asciiFolded, Text.upperFirst, String.toList_ofList]
  cases hname : name.toList with
  | nil => rfl
  | cons c rest =>
      have hc : c.toNat < 0x80 := h c (by rw [hname]; rfl)
      rw [Text.mapFirst, List.map_append, map_foldAscii_upper hc, List.map_cons,
        List.singleton_append]

/-- A capital does not change the spelling of a name that begins with an ASCII character. -/
theorem canonical?_upperFirst (system : TypeSystem) {name : String}
    (h : ∀ c ∈ name.toList.head?, c.toNat < 0x80) :
    system.canonical? (Text.upperFirst name) = system.canonical? name :=
  canonical?_congr (asciiFolded_upperFirst h)

/-- A type system spells two names alike, whatever it lists, exactly if they are equal up to
case. -/
theorem canonical?_eq_iff {name other : String} :
    (∀ system : TypeSystem, system.canonical? name = system.canonical? other) ↔
      Text.asciiFolded name = Text.asciiFolded other := by
  constructor
  · intro h
    have hname : (⟨"", [name]⟩ : TypeSystem).canonical? name = some name :=
      List.find?_cons_of_pos (p := (Text.equalIgnoringCase · name))
        (Text.equalIgnoringCase_iff.2 rfl)
    exact asciiFolded_of_canonical? ((h _).symm.trans hname)
  · intro h system
    exact canonical?_congr h

end ClassDiagram
