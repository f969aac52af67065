import ClassDiagram.Element.Name
import ClassDiagram.Proofs.Trimming
import ClassDiagram.Proofs.Utf8

/-!
# Upper and lower case, once and for all

A text in upper case stays as it is when it is put into upper case again, character by
character or at its first character alone, and likewise in lower case.  For one character
this is a fact about the tables: nothing that a table maps to is mapped further by it
(`CaseTable.Settled`).  Both tables have some 1,500 entries.  They are compared as sets of
code points, each set held in the bits of one number (`Holds`), so that a single operation
on two numbers shows that two sets have nothing in common (`Holds.disjoint`).

The tables move no blank and map to none, so that a text that is trimmed is still trimmed
with a capital (`trimmed_upperFirst`).  Of all characters only `I` becomes `i`, so that a
name is named like an id exactly if it is with a small first letter
(`isIdName_of_lowerFirst`).
-/

namespace ClassDiagram

namespace Text

/-! ## Sets of code points -/

/-- The number in which exactly the bits at the given places are set. -/
def bitsOf (codes : List Nat) : Nat :=
  codes.foldr (fun code bits => 1 <<< code ||| bits) 0

theorem testBit_bitsOf {codes : List Nat} {code : Nat} :
    (bitsOf codes).testBit code = true ↔ code ∈ codes := by
  induction codes with
  | nil => simp [bitsOf]
  | cons first rest ih =>
      have hcons : bitsOf (first :: rest) = 1 <<< first ||| bitsOf rest := rfl
      rw [hcons, Nat.testBit_or, Bool.or_eq_true, ih, Nat.one_shiftLeft, Nat.testBit_two_pow,
        decide_eq_true_eq, List.mem_cons, eq_comm]

/-- The bits of the number stand at the members of the list. -/
def Holds (bits : Nat) (codes : List Nat) : Prop :=
  ∀ code, bits.testBit code = true ↔ code ∈ codes

theorem holds_bitsOf (codes : List Nat) : Holds (bitsOf codes) codes := fun _ => testBit_bitsOf

theorem Holds.append {bits bits' : Nat} {codes codes' : List Nat} (h : Holds bits codes)
    (h' : Holds bits' codes') : Holds (bits ||| bits') (codes ++ codes') := by
  intro code
  rw [Nat.testBit_or, Bool.or_eq_true, h, h', List.mem_append]

/-- Lists have no member in common if their numbers have no bit in common. -/
theorem Holds.disjoint {bits bits' : Nat} {codes codes' : List Nat} (h : Holds bits codes)
    (h' : Holds bits' codes') (hbits : bits &&& bits' = 0) : codes.Disjoint codes' := by
  intro code hcode hcode'
  have hboth : (bits &&& bits').testBit code = true := by
    rw [Nat.testBit_and, (h code).2 hcode, (h' code).2 hcode']
    rfl
  rw [hbits, Nat.zero_testBit] at hboth
  cases hboth

/-- The number in which `count` bits are set, the first one and then one at every step. -/
def strideBits (step : Nat) : Nat → Nat
  | 0 => 0
  | count + 1 => strideBits step count <<< step ||| 1

theorem testBit_strideBits {step count code : Nat} :
    (strideBits step count).testBit code = true ↔ ∃ index < count, step * index = code := by
  induction count generalizing code with
  | zero => simp [strideBits]
  | succ count ih =>
      rw [strideBits, Nat.testBit_or, Nat.testBit_shiftLeft, Bool.or_eq_true, Bool.and_eq_true,
        decide_eq_true_eq, ih, Nat.testBit_one_eq_true_iff_self_eq_zero]
      constructor
      · rintro (⟨hstep, index, hindex, hcode⟩ | rfl)
        · exact ⟨index + 1, by omega, by rw [Nat.mul_succ, hcode]; omega⟩
        · exact ⟨0, by omega, rfl⟩
      · rintro ⟨_ | index, hindex, rfl⟩
        · exact .inr (Nat.mul_zero step)
        · refine .inl ⟨?_, index, by omega, ?_⟩
          · rw [Nat.mul_succ]
            omega
          · rw [Nat.mul_succ]
            omega

/-- The number for the code points at every step from the first one on. -/
theorem holds_stride (first step count : Nat) : Holds (strideBits step count <<< first)
    ((List.range count).map fun index => first + step * index) := by
  intro code
  rw [Nat.testBit_shiftLeft, Bool.and_eq_true, decide_eq_true_eq, testBit_strideBits]
  simp only [List.mem_map, List.mem_range]
  constructor
  · rintro ⟨hfirst, index, hindex, hcode⟩
    exact ⟨index, hindex, by omega⟩
  · rintro ⟨index, hindex, rfl⟩
    exact ⟨by omega, index, hindex, by omega⟩

/-- The code points of blanks. -/
def blankCodes : List Nat :=
  blankRanges.flatMap fun range =>
    (List.range (range.2 - range.1 + 1)).map fun index => range.1 + index

theorem mem_blankCodes_of_isBlank {c : Char} (h : isBlank c = true) : c.toNat ∈ blankCodes := by
  obtain ⟨range, hrange, hin⟩ := List.any_eq_true.1 h
  rw [Bool.and_eq_true, decide_eq_true_eq, decide_eq_true_eq] at hin
  refine List.mem_flatMap.2 ⟨range, hrange, List.mem_map.2 ⟨c.toNat - range.1, ?_, ?_⟩⟩
  · rw [List.mem_range]
    omega
  · omega

/-! ## What a table maps, and to what -/

/-- The code points that a run maps. -/
def CaseRun.members (run : CaseRun) : List Nat :=
  (List.range ((run.last - run.first) / run.step + 1)).map fun index =>
    run.first + run.step * index

/-- The code points that a run maps to. -/
def CaseRun.images (run : CaseRun) : List Nat :=
  (List.range ((run.last - run.first) / run.step + 1)).map fun index =>
    run.target + run.step * index

/-- The code points that a table maps. -/
def CaseTable.sources (table : CaseTable) : List Nat :=
  table.runs.flatMap (·.members) ++ table.expansions.map Prod.fst

/-- The code points that a table maps to. -/
def CaseTable.images (table : CaseTable) : List Nat :=
  table.runs.flatMap (·.images) ++ table.expansions.flatMap Prod.snd

theorem CaseRun.mem_of_image? {run : CaseRun} {code image : Nat}
    (h : run.image? code = some image) : code ∈ run.members ∧ image ∈ run.images := by
  unfold CaseRun.image? at h
  split at h
  · next hin =>
      obtain ⟨hfirst, hlast, hstep⟩ := hin
      have hindex : run.step * ((code - run.first) / run.step) = code - run.first :=
        Nat.mul_div_cancel' (Nat.dvd_of_mod_eq_zero hstep)
      have hrange : (code - run.first) / run.step ∈
          List.range ((run.last - run.first) / run.step + 1) := by
        rw [List.mem_range, Nat.lt_succ_iff]
        exact Nat.div_le_div_right (by omega)
      refine ⟨List.mem_map.2 ⟨_, hrange, ?_⟩, List.mem_map.2 ⟨_, hrange, ?_⟩⟩
      · rw [hindex]
        omega
      · rw [hindex, Option.some.inj h]
  · cases h

/-- A table keeps a code point, or one of its expansions or its runs maps it. -/
theorem CaseTable.apply_cases (table : CaseTable) (code : Nat) :
    table.apply code = [code] ∨
      (∃ codes, (code, codes) ∈ table.expansions ∧ table.apply code = codes) ∨
      ∃ run ∈ table.runs, ∃ image, run.image? code = some image ∧
        table.apply code = [image] := by
  unfold CaseTable.apply
  cases hlookup : table.expansions.lookup code with
  | some codes =>
      obtain ⟨before, after, hsplit, -⟩ := List.lookup_eq_some_iff.1 hlookup
      exact .inr (.inl ⟨codes, hsplit ▸ by simp, rfl⟩)
  | none =>
      cases hruns : table.runs.findSome? (·.image? code) with
      | none => exact .inl rfl
      | some image =>
          obtain ⟨run, hrun, himage⟩ := List.exists_of_findSome?_eq_some hruns
          exact .inr (.inr ⟨run, hrun, image, himage, rfl⟩)

/-- A table keeps a code point, or it maps it to some of its images. -/
theorem CaseTable.apply_cases_images (table : CaseTable) (code : Nat) :
    table.apply code = [code] ∨
      code ∈ table.sources ∧ ∀ image ∈ table.apply code, image ∈ table.images := by
  rcases table.apply_cases code with
    hkept | ⟨codes, hcodes, happly⟩ | ⟨run, hrun, image, himage, happly⟩
  · exact .inl hkept
  · refine .inr ⟨List.mem_append_right _ (List.mem_map_of_mem hcodes), fun image himage => ?_⟩
    exact List.mem_append_right _ (List.mem_flatMap.2 ⟨_, hcodes, happly ▸ himage⟩)
  · obtain ⟨hmember, himage⟩ := CaseRun.mem_of_image? himage
    refine .inr ⟨List.mem_append_left _ (List.mem_flatMap.2 ⟨run, hrun, hmember⟩), ?_⟩
    rw [happly]
    intro other hother
    rw [List.mem_singleton.1 hother]
    exact List.mem_append_left _ (List.mem_flatMap.2 ⟨run, hrun, himage⟩)

/-- The table maps nothing twice, and neither takes blanks away nor makes new ones. -/
structure CaseTable.Settled (table : CaseTable) : Prop where
  images_sources : table.images.Disjoint table.sources
  blanks_sources : blankCodes.Disjoint table.sources
  blanks_images : blankCodes.Disjoint table.images
  valid : ∀ code ∈ table.images, code.isValidChar
  expansions_ne_nil : ∀ entry ∈ table.expansions, entry.2 ≠ []

/-! ## Tables in bits -/

/-- The number of code points that a run maps. -/
def CaseRun.size (run : CaseRun) : Nat := (run.last - run.first) / run.step + 1

/-- The number for the code points that a run maps. -/
def CaseRun.memberBits (run : CaseRun) : Nat := strideBits run.step run.size <<< run.first

/-- The number for the code points that a run maps to. -/
def CaseRun.imageBits (run : CaseRun) : Nat := strideBits run.step run.size <<< run.target

/-- The number for the code points of some runs. -/
def runBits (bits : CaseRun → Nat) (runs : List CaseRun) : Nat :=
  runs.foldr (fun run rest => bits run ||| rest) 0

theorem holds_runBits {bits : CaseRun → Nat} {codes : CaseRun → List Nat}
    (h : ∀ run, Holds (bits run) (codes run)) (runs : List CaseRun) :
    Holds (runBits bits runs) (runs.flatMap codes) := by
  induction runs with
  | nil => exact holds_bitsOf []
  | cons run runs ih =>
      rw [List.flatMap_cons]
      exact (h run).append ih

theorem holds_images (runs : List CaseRun) :
    Holds (runBits CaseRun.imageBits runs) (runs.flatMap CaseRun.images) :=
  holds_runBits (fun run => holds_stride run.target run.step run.size) runs

/-- The number for the code points that a table maps. -/
def CaseTable.sourceBits (table : CaseTable) : Nat :=
  runBits CaseRun.memberBits table.runs ||| bitsOf (table.expansions.map Prod.fst)

/-- The number for the code points that a table maps to. -/
def CaseTable.imageBits (table : CaseTable) : Nat :=
  runBits CaseRun.imageBits table.runs ||| bitsOf (table.expansions.flatMap Prod.snd)

theorem CaseTable.holds_sourceBits (table : CaseTable) : Holds table.sourceBits table.sources :=
  (holds_runBits (fun run => holds_stride run.first run.step run.size) _).append (holds_bitsOf _)

theorem CaseTable.holds_imageBits (table : CaseTable) : Holds table.imageBits table.images :=
  (holds_images _).append (holds_bitsOf _)

/-- The number for the 2,048 surrogates, which are no characters. -/
def surrogateBits : Nat := strideBits 1 0x800 <<< 0xD800

/-- Code points are those of characters if no bit is set for a surrogate or beyond the last code
point of all. -/
theorem Holds.isValidChar {bits : Nat} {codes : List Nat} (h : Holds bits codes)
    (hsurrogates : bits &&& surrogateBits = 0) (hlimit : bits >>> 0x110000 = 0) :
    ∀ code ∈ codes, code.isValidChar := by
  intro code hcode
  have hbound : code < 0x110000 := by
    by_contra hhigh
    have hzero := Nat.testBit_shiftRight (i := 0x110000) (j := code - 0x110000) bits
    rw [hlimit, Nat.zero_testBit, Nat.add_sub_cancel' (Nat.le_of_not_lt hhigh),
      (h code).2 hcode] at hzero
    cases hzero
  have hother : ¬(0xD800 ≤ code ∧ code - 0xD800 < 0x800) := by
    rintro ⟨hfirst, hlast⟩
    refine h.disjoint (holds_stride 0xD800 1 0x800) hsurrogates hcode ?_
    exact List.mem_map.2 ⟨code - 0xD800, List.mem_range.2 hlast, by omega⟩
  rw [Nat.isValidChar]
  omega

/-- To see that a table is settled is to compute with three numbers. -/
theorem CaseTable.settled_of_bits {table : CaseTable}
    (h : table.imageBits &&& table.sourceBits = 0 ∧
      bitsOf blankCodes &&& table.sourceBits = 0 ∧ bitsOf blankCodes &&& table.imageBits = 0 ∧
      table.imageBits &&& surrogateBits = 0 ∧ table.imageBits >>> 0x110000 = 0 ∧
      ∀ entry ∈ table.expansions, entry.2 ≠ []) : table.Settled := by
  obtain ⟨hsources, hblankSources, hblankImages, hsurrogates, hlimit, hexpansions⟩ := h
  exact
    { images_sources := table.holds_imageBits.disjoint table.holds_sourceBits hsources
      blanks_sources := (holds_bitsOf _).disjoint table.holds_sourceBits hblankSources
      blanks_images := (holds_bitsOf _).disjoint table.holds_imageBits hblankImages
      valid := table.holds_imageBits.isValidChar hsurrogates hlimit
      expansions_ne_nil := hexpansions }

/-- A table that is settled. -/
structure SettledTable where
  table : CaseTable
  settled : table.Settled

/-- The table of capitals is settled. -/
def upperSettled : SettledTable := ⟨upperTable, CaseTable.settled_of_bits (by decide +kernel)⟩

/-- The table of small letters is settled. -/
def lowerSettled : SettledTable := ⟨lowerTable, CaseTable.settled_of_bits (by decide +kernel)⟩

theorem settled_upperTable : upperTable.Settled := upperSettled.settled

theorem settled_lowerTable : lowerTable.Settled := lowerSettled.settled

/-! ## One character -/

/-- The form of a character by a table. -/
def CaseTable.form (table : CaseTable) (c : Char) : List Char :=
  (table.apply c.toNat).map Char.ofNat

theorem CaseTable.form_of_not_mem_sources {table : CaseTable} {c : Char}
    (hc : c.toNat ∉ table.sources) : table.form c = [c] := by
  have hkept := (table.apply_cases_images c.toNat).resolve_right fun hmapped => hc hmapped.1
  rw [form, hkept, List.map_singleton, Char.ofNat_toNat]

section

variable {table : CaseTable} (h : table.Settled)

include h

namespace CaseTable.Settled

theorem form_ne_nil (c : Char) : table.form c ≠ [] := by
  rw [form, ne_eq, List.map_eq_nil_iff]
  rcases table.apply_cases c.toNat with
    hkept | ⟨codes, hcodes, happly⟩ | ⟨_, _, image, _, happly⟩
  · rw [hkept]
    exact List.cons_ne_nil _ _
  · rw [happly]
    exact h.expansions_ne_nil _ hcodes
  · rw [happly]
    exact List.cons_ne_nil _ _

/-- A character keeps its form, or its form is made of images of the table. -/
theorem form_cases (c : Char) :
    table.form c = [c] ∨ ∀ d ∈ table.form c, d.toNat ∈ table.images := by
  rcases table.apply_cases_images c.toNat with hkept | ⟨-, himages⟩
  · left
    rw [form, hkept, List.map_singleton, Char.ofNat_toNat]
  · right
    intro d hd
    obtain ⟨image, himage, rfl⟩ := List.mem_map.1 hd
    have hmem := himages image himage
    rw [Utf8.toNat_ofNat_of_isValidChar (h.valid image hmem)]
    exact hmem

/-- The form of a character stays as it is. -/
theorem form_of_mem_form {c d : Char} (hd : d ∈ table.form c) : table.form d = [d] := by
  rcases h.form_cases c with hkept | himages
  · rw [hkept, List.mem_singleton] at hd
    rw [hd, hkept]
  · exact form_of_not_mem_sources (h.images_sources (himages d hd))

/-- Blanks have no other form. -/
theorem form_of_isBlank {c : Char} (hc : isBlank c = true) : table.form c = [c] :=
  form_of_not_mem_sources (h.blanks_sources (mem_blankCodes_of_isBlank hc))

/-- No other character has a blank in its form. -/
theorem isBlank_of_mem_form {c d : Char} (hc : isBlank c = false) (hd : d ∈ table.form c) :
    isBlank d = false := by
  rcases h.form_cases c with hkept | himages
  · rw [hkept, List.mem_singleton] at hd
    rw [hd, hc]
  · rw [← Bool.not_eq_true]
    exact fun hblank => h.blanks_images (mem_blankCodes_of_isBlank hblank) (himages d hd)

/-! ## Texts -/

theorem mapFirst_mapFirst (cs : List Char) :
    mapFirst table.form (mapFirst table.form cs) = mapFirst table.form cs := by
  cases cs with
  | nil => rfl
  | cons c rest =>
      have hall : ∀ d ∈ table.form c, table.form d = [d] := fun d => h.form_of_mem_form
      cases hform : table.form c with
      | nil => exact absurd hform (h.form_ne_nil c)
      | cons d ds =>
          have hd : table.form d = [d] := hall d (hform ▸ List.mem_cons_self)
          rw [mapFirst, hform, List.cons_append, mapFirst, hd, List.singleton_append]

theorem flatMap_form_flatMap_form (cs : List Char) :
    (cs.flatMap table.form).flatMap table.form = cs.flatMap table.form := by
  rw [List.flatMap_assoc]
  apply List.flatMap_congr
  intro c _
  calc (table.form c).flatMap table.form = (table.form c).flatMap fun d => [d] :=
        List.flatMap_congr fun d hd => h.form_of_mem_form hd
    _ = table.form c := List.flatMap_singleton' _

theorem mapFirst_eq_nil_iff {cs : List Char} : mapFirst table.form cs = [] ↔ cs = [] := by
  cases cs with
  | nil => simp [mapFirst]
  | cons c rest => simp [mapFirst, h.form_ne_nil c]

end CaseTable.Settled

end

theorem upperFirst_upperFirst (text : String) : upperFirst (upperFirst text) = upperFirst text := by
  rw [upperFirst, upperFirst, String.toList_ofList]
  exact congrArg String.ofList (settled_upperTable.mapFirst_mapFirst text.toList)

theorem lowerFirst_lowerFirst (text : String) : lowerFirst (lowerFirst text) = lowerFirst text := by
  rw [lowerFirst, lowerFirst, String.toList_ofList]
  exact congrArg String.ofList (settled_lowerTable.mapFirst_mapFirst text.toList)

/-- A text whose first character is in lower case is so at its beginning. -/
theorem lowerFirst_eq_self {text : String} {c : Char} {rest : List Char}
    (htext : text.toList = c :: rest) (hc : lower c = [c]) : lowerFirst text = text := by
  rw [lowerFirst, htext, mapFirst, hc, List.singleton_append, ← htext, String.ofList_toList]

theorem upperAll_upperAll (text : String) : upperAll (upperAll text) = upperAll text := by
  rw [upperAll, upperAll, String.toList_ofList]
  exact congrArg String.ofList (settled_upperTable.flatMap_form_flatMap_form text.toList)

theorem upperFirst_eq_empty_iff {text : String} : upperFirst text = "" ↔ text = "" := by
  rw [upperFirst, String.ofList_eq_empty_iff, ← String.toList_eq_nil_iff]
  exact settled_upperTable.mapFirst_eq_nil_iff

theorem lowerFirst_eq_empty_iff {text : String} : lowerFirst text = "" ↔ text = "" := by
  rw [lowerFirst, String.ofList_eq_empty_iff, ← String.toList_eq_nil_iff]
  exact settled_lowerTable.mapFirst_eq_nil_iff

theorem upperAll_eq_empty_iff {text : String} : upperAll text = "" ↔ text = "" := by
  rw [upperAll, String.ofList_eq_empty_iff, List.flatMap_eq_nil_iff, ← String.toList_eq_nil_iff,
    List.eq_nil_iff_forall_not_mem]
  exact forall₂_congr fun c _ => iff_false_intro (settled_upperTable.form_ne_nil c)

/-! ## Trimmed texts -/

/-- A capital leaves a text trimmed. -/
theorem trimmed_upperFirst {text : String} (h : Trimmed text.toList) :
    Trimmed (upperFirst text).toList := by
  rw [upperFirst, String.toList_ofList]
  cases htext : text.toList with
  | nil =>
      rw [htext] at h
      exact h
  | cons c rest =>
      rw [htext] at h
      have hc : isBlank c = false := h.head c rfl
      have hupper : ∀ d ∈ upper c, isBlank d = false := fun d =>
        settled_upperTable.isBlank_of_mem_form hc
      have hne : upper c ≠ [] := settled_upperTable.form_ne_nil c
      constructor
      · intro d hd
        rw [mapFirst, List.head?_append_of_ne_nil _ hne] at hd
        exact hupper d (List.mem_of_mem_head? hd)
      · intro d hd
        rw [mapFirst, List.getLast?_append] at hd
        cases hrest : rest.getLast? with
        | some last =>
            rw [hrest] at hd
            refine h.last d ?_
            rw [List.getLast?_cons, hrest]
            exact hd
        | none =>
            rw [hrest] at hd
            exact hupper d (List.mem_of_getLast? hd)

/-! ## Names like an id -/

/-- Only two characters are `i` up to case. -/
theorem toNat_of_foldAscii {c : Char} (h : foldAscii c = 'i') :
    c.toNat = 0x49 ∨ c.toNat = 0x69 := by
  unfold foldAscii at h
  split at h
  · next hcapital =>
      have hall : ∀ code ≤ 0x5A, Char.ofNat (code + 0x20) = 'i' → code = 0x49 := by decide
      exact .inl (hall c.toNat hcapital.2 h)
  · exact .inr (h ▸ rfl)

/-- Of the members of all runs only `I` is mapped to an `i`. -/
theorem eq_of_image?_lower {run : CaseRun} (hrun : run ∈ lowerTable.runs) {code image : Nat}
    (h : run.image? code = some image) (himage : image ∈ [0x49, 0x69]) : code = 0x49 := by
  have hothers : (lowerTable.runs.tail.flatMap CaseRun.images).Disjoint [0x49, 0x69] :=
    (holds_images _).disjoint (holds_bitsOf _) (by decide +kernel)
  have hsplit : lowerTable.runs = ⟨0x41, 0x5A, 1, 0x61⟩ :: lowerTable.runs.tail := rfl
  rw [hsplit, List.mem_cons] at hrun
  rcases hrun with rfl | htail
  · obtain ⟨hcode, hshift⟩ := Option.ite_none_right_eq_some.1 h
    have hshift := Option.some.inj hshift
    simp only [List.mem_cons, List.not_mem_nil, or_false] at himage
    dsimp only at hcode hshift
    omega
  · exact absurd himage
      (hothers (List.mem_flatMap.2 ⟨run, htail, (CaseRun.mem_of_image? h).2⟩))

/-- A text that is like `id` with a small first letter is like `id` as it is. -/
theorem map_foldAscii_of_lower {c : Char} {rest : List Char}
    (h : (lower c ++ rest).map foldAscii = ['i', 'd']) :
    (c :: rest).map foldAscii = ['i', 'd'] := by
  have hform : lower c = (lowerTable.apply c.toNat).map Char.ofNat := rfl
  rcases lowerTable.apply_cases c.toNat with
    hkept | ⟨codes, hcodes, happly⟩ | ⟨run, hrun, image, himage, happly⟩
  · rw [hform, hkept, List.map_singleton, Char.ofNat_toNat] at h
    exact h
  · -- The one expansion is of two characters, and the second is not a letter.
    obtain ⟨-, rfl⟩ := Prod.mk.inj (List.mem_singleton.1 hcodes)
    rw [hform, happly] at h
    have hdot : foldAscii (Char.ofNat 0x0307) = 'd' := (List.cons.inj (List.cons.inj h).2).1
    exact absurd hdot (by decide)
  · have hvalid : image.isValidChar := settled_lowerTable.valid image
      (List.mem_append_left _ (List.mem_flatMap.2 ⟨run, hrun, (CaseRun.mem_of_image? himage).2⟩))
    rw [hform, happly] at h
    obtain ⟨hfirst, hrest⟩ := List.cons.inj h
    have hcode := toNat_of_foldAscii hfirst
    rw [Utf8.toNat_ofNat_of_isValidChar hvalid] at hcode
    have hcapital : c = 'I' := by
      rw [← Char.ofNat_toNat c, eq_of_image?_lower hrun himage (by simpa using hcode)]
    rw [hcapital, List.map_cons, ← hrest]
    rfl

end Text

theorem isIdName_iff {name : String} : isIdName name = true ↔
    (Text.trimChars name.toList).map Text.foldAscii = ['i', 'd'] := by
  rw [isIdName, Text.equalIgnoringCase_iff, Text.asciiFolded, Text.trim, String.toList_ofList]
  rfl

/-- A name that is like an id with a small first letter is like an id as it is. -/
theorem isIdName_of_lowerFirst {name : String} (h : isIdName (Text.lowerFirst name) = true) :
    isIdName name = true := by
  rw [isIdName_iff] at h ⊢
  rw [Text.lowerFirst, String.toList_ofList] at h
  cases hname : name.toList with
  | nil =>
      rw [hname] at h
      exact h
  | cons c rest =>
      rw [hname, Text.mapFirst] at h
      cases hblank : Text.isBlank c with
      | true =>
          have hkept : Text.lower c = [c] := Text.settled_lowerTable.form_of_isBlank hblank
          rw [hkept] at h
          exact h
      | false =>
          have hnone : ∀ d ∈ Text.lower c, Text.isBlank d = false := fun d =>
            Text.settled_lowerTable.isBlank_of_mem_form hblank
          have hself : Text.trimChars (c :: rest) = c :: Text.dropEnd Text.isBlank rest :=
            Text.trimChars_append (List.cons_ne_nil c []) (by simpa using hblank) rest
          have hne : Text.lower c ≠ [] := Text.settled_lowerTable.form_ne_nil c
          rw [Text.trimChars_append hne hnone] at h
          rw [hself]
          exact Text.map_foldAscii_of_lower h

end ClassDiagram
