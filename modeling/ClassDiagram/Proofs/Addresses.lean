import ClassDiagram.Element.Name
import ClassDiagram.Proofs.Trimming

/-!
# The type named by an address

A type from outside stands at an address such as `types.uml#//String`.  The fragment of the
address is what follows its last `#`, or all of it (`IsFragment`); its components stand
between slashes, and the last one that is not empty names the type, whatever slashes follow
it (`lastComponent_eq_iff`).

Every address has exactly one fragment (`isFragment_iff`).  It names no type exactly if there
are only slashes in it.
-/

namespace ClassDiagram

/-! ## After the last mark -/

/-- Where the mark does not occur, nothing is cut. -/
theorem afterLast_of_not_mem {mark : Char} {cs : List Char} (h : mark ∉ cs) :
    afterLast mark cs = cs := by
  have hall := Text.forall_ne_of_not_mem (fun hmem => h (List.mem_reverse.1 hmem))
  rw [afterLast, List.takeWhile_eq_self_iff.2 hall, List.reverse_reverse]

/-- What stands before a mark is cut. -/
theorem afterLast_append_cons {mark : Char} {cs : List Char} (h : mark ∉ cs)
    (before : List Char) : afterLast mark (before ++ mark :: cs) = cs := by
  have hall := Text.forall_ne_of_not_mem (fun hmem => h (List.mem_reverse.1 hmem))
  rw [afterLast, List.reverse_append, List.reverse_cons, List.append_assoc,
    List.takeWhile_append_of_pos hall, List.singleton_append,
    List.takeWhile_cons_of_neg (by simp), List.append_nil, List.reverse_reverse]

/-- What follows the last mark is the one end without a mark that follows a mark or is all. -/
theorem afterLast_eq_iff {mark : Char} {cs tail : List Char} :
    afterLast mark cs = tail ↔
      mark ∉ tail ∧ (cs = tail ∨ ∃ before, cs = before ++ mark :: tail) := by
  constructor
  · rintro rfl
    refine ⟨fun hmem => ne_of_mem_afterLast hmem rfl, ?_⟩
    have hcut : (cs.reverse.dropWhile (· ≠ mark)).reverse ++ afterLast mark cs = cs := by
      rw [afterLast, ← List.reverse_append, List.takeWhile_append_dropWhile, List.reverse_reverse]
    cases hbefore : cs.reverse.dropWhile (· ≠ mark) with
    | nil =>
        rw [hbefore] at hcut
        exact .inl hcut.symm
    | cons c before =>
        have hc := List.head?_dropWhile_not (· ≠ mark) cs.reverse
        rw [hbefore] at hcut hc
        obtain rfl : c = mark := by simpa using hc
        refine .inr ⟨before.reverse, ?_⟩
        rw [List.reverse_cons, List.append_assoc, List.singleton_append] at hcut
        exact hcut.symm
  · rintro ⟨hmark, rfl | ⟨before, rfl⟩⟩
    · exact afterLast_of_not_mem hmark
    · exact afterLast_append_cons hmark before

/-- Nothing follows the last mark exactly if it is the last character or there is none at all. -/
theorem afterLast_eq_nil_iff {mark : Char} {cs : List Char} :
    afterLast mark cs = [] ↔ ∀ c, cs.getLast? = some c → c = mark := by
  rw [afterLast, List.reverse_eq_nil_iff, List.getLast?_eq_head?_reverse]
  cases cs.reverse with
  | nil => simp
  | cons c rest => simp [List.takeWhile_cons]

/-! ## Fragments -/

/-- The part of an address that names the type: what follows the last `#`, or the whole address if
it has no `#`. -/
def IsFragment (address fragment : String) : Prop :=
  '#' ∉ fragment.toList ∧ (address = fragment ∨ ∃ path, address = path ++ "#" ++ fragment)

/-- Every address has exactly one fragment. -/
theorem isFragment_iff {address fragment : String} :
    IsFragment address fragment ↔ afterLast '#' address.toList = fragment.toList := by
  rw [afterLast_eq_iff, IsFragment, String.toList_inj]
  refine and_congr_right fun _ => or_congr_right ⟨?_, ?_⟩
  · rintro ⟨path, rfl⟩
    exact ⟨path.toList, by simp⟩
  · rintro ⟨before, hbefore⟩
    refine ⟨String.ofList before, String.toList_inj.1 ?_⟩
    simp [hbefore]

/-! ## Components -/

/-- The last component of a fragment stands at its beginning or after a slash, and only slashes
stand after it. -/
theorem lastComponent_eq_iff {name : List Char} (hne : name ≠ []) (hname : '/' ∉ name)
    (fragment : List Char) :
    afterLast '/' (Text.dropEnd (· = '/') fragment) = name ↔
      ∃ front count, (front = [] ∨ front.getLast? = some '/') ∧
        fragment = front ++ name ++ List.replicate count '/' := by
  constructor
  · intro h
    obtain ⟨-, tail, hfragment, htail⟩ :=
      Text.dropEnd_eq_iff.1 (rfl : Text.dropEnd (· = '/') fragment = _)
    have hslashes : tail = List.replicate tail.length '/' :=
      List.eq_replicate_of_mem fun c hc => of_decide_eq_true (htail c hc)
    rcases (afterLast_eq_iff.1 h).2 with hall | ⟨before, hbefore⟩
    · refine ⟨[], tail.length, .inl rfl, ?_⟩
      rw [List.nil_append, ← hslashes, ← hall]
      exact hfragment
    · refine ⟨before ++ ['/'], tail.length, .inr (by simp), ?_⟩
      rw [← hslashes, List.append_assoc before, List.singleton_append, ← hbefore]
      exact hfragment
  · rintro ⟨front, count, hfront, rfl⟩
    have hcut : Text.dropEnd (· = '/') (front ++ name ++ List.replicate count '/') =
        front ++ name := by
      refine Text.dropEnd_append_replicate (fun hlast => hname ?_) count
      rw [List.getLast?_append_of_ne_nil _ hne] at hlast
      exact List.mem_of_getLast? hlast
    rw [hcut, afterLast_eq_iff]
    refine ⟨hname, hfront.imp (fun hempty => ?_) fun hslash => ?_⟩
    · rw [hempty, List.nil_append]
    · obtain ⟨before, rfl⟩ := List.getLast?_eq_some_iff.1 hslash
      exact ⟨before, by simp⟩

/-! ## Types -/

/-- The type is named by the last component of the fragment. -/
theorem typeNameOfAddress_of_isFragment {address fragment : String}
    (h : IsFragment address fragment) :
    typeNameOfAddress address =
      String.ofList (afterLast '/' (Text.dropEnd (· = '/') fragment.toList)) := by
  rw [typeNameOfAddress, isFragment_iff.1 h]

/-- A name that is no path is the type that it names as a fragment. -/
theorem typeNameOfAddress_of_plain {address name : String} (h : IsFragment address name)
    (hname : '/' ∉ name.toList) : typeNameOfAddress address = name := by
  have hcut : Text.dropEnd (· = '/') name.toList = name.toList :=
    Text.dropEnd_eq_iff.2 ⟨fun c hc =>
      decide_eq_false fun heq => hname (heq ▸ List.mem_of_getLast? hc),
      [], (List.append_nil _).symm, nofun⟩
  rw [typeNameOfAddress_of_isFragment h, hcut, afterLast_of_not_mem hname, String.ofList_toList]

/-- What names a type is part of the fragment. -/
theorem mem_of_mem_typeNameOfAddress {address : String} {c : Char}
    (h : c ∈ (typeNameOfAddress address).toList) : c ∈ afterLast '#' address.toList := by
  rw [typeNameOfAddress, String.toList_ofList, afterLast, List.mem_reverse] at h
  have hdrop := List.mem_reverse.1 (List.takeWhile_subset _ h)
  rw [Text.dropEnd, List.mem_reverse] at hdrop
  exact List.mem_reverse.1 (List.dropWhile_subset _ hdrop)

theorem not_mem_typeNameOfAddress (address : String) :
    '#' ∉ (typeNameOfAddress address).toList ∧ '/' ∉ (typeNameOfAddress address).toList := by
  refine ⟨fun hmem => ?_, fun hmem => ?_⟩
  · exact ne_of_mem_afterLast (mem_of_mem_typeNameOfAddress hmem) rfl
  · rw [typeNameOfAddress, String.toList_ofList] at hmem
    exact ne_of_mem_afterLast hmem rfl

/-- An address names no type exactly if only slashes follow its last `#`. -/
theorem typeNameOfAddress_eq_empty_iff {address : String} :
    typeNameOfAddress address = "" ↔ ∀ c ∈ afterLast '#' address.toList, c = '/' := by
  have hdrop : (∀ c ∈ afterLast '#' address.toList, c = '/') ↔
      Text.dropEnd (· = '/') (afterLast '#' address.toList) = [] := by
    simp [Text.dropEnd_eq_rdropWhile, List.rdropWhile_eq_nil_iff]
  rw [typeNameOfAddress, String.ofList_eq_empty_iff, afterLast_eq_nil_iff, hdrop]
  constructor
  · intro h
    -- The slashes at the end are cut, so that no last character is left.
    rw [← List.getLast?_eq_none_iff, Option.eq_none_iff_forall_ne_some]
    intro c hlast
    have hslash := Text.getLast?_dropEnd _ _ hlast
    simp [h c hlast] at hslash
  · intro h c hlast
    rw [h] at hlast
    cases hlast

/-- A component of a fragment. -/
structure IsComponent (name : String) : Prop where
  ne_empty : name ≠ ""
  no_mark : '#' ∉ name.toList
  no_slash : '/' ∉ name.toList

/-- What may stand before a component in a fragment: nothing, or other components and a slash. -/
structure IsFront (front : String) : Prop where
  no_mark : '#' ∉ front.toList
  ends : front = "" ∨ front.toList.getLast? = some '/'

/-- A fragment that ends in a component and any number of slashes. -/
def fragmentWith (front name : String) (count : Nat) : String :=
  front ++ name ++ String.ofList (List.replicate count '/')

theorem toList_fragmentWith (front name : String) (count : Nat) :
    (fragmentWith front name count).toList =
      front.toList ++ name.toList ++ List.replicate count '/' := by
  simp [fragmentWith]

/-- A component names the type of the addresses that have it last in their fragment, and of no
others. -/
theorem typeNameOfAddress_eq_iff {address name : String} (h : IsComponent name) :
    typeNameOfAddress address = name ↔
      ∃ front count, IsFront front ∧ IsFragment address (fragmentWith front name count) := by
  have hne : name.toList ≠ [] := fun hempty => h.ne_empty (String.toList_eq_nil_iff.1 hempty)
  have hlast := lastComponent_eq_iff hne h.no_slash (afterLast '#' address.toList)
  rw [typeNameOfAddress, ← String.toList_inj, String.toList_ofList, hlast]
  constructor
  · rintro ⟨front, count, hends, hfragment⟩
    have hmark : '#' ∉ front := fun hmem =>
      ne_of_mem_afterLast (hfragment ▸ List.mem_append_left _ (List.mem_append_left _ hmem)) rfl
    refine ⟨String.ofList front, count, ⟨by simpa using hmark, by simpa using hends⟩, ?_⟩
    rw [isFragment_iff, hfragment, toList_fragmentWith, String.toList_ofList]
  · rintro ⟨front, count, hfront, hfragment⟩
    refine ⟨front.toList, count, hfront.ends.imp_left fun hempty => ?_, ?_⟩
    · rw [hempty]
      rfl
    · rw [isFragment_iff.1 hfragment, toList_fragmentWith]

/-- A fragment that ends in a component has no `#`. -/
theorem not_mem_fragmentWith {front name : String} (hfront : IsFront front)
    (hname : IsComponent name) (count : Nat) : '#' ∉ (fragmentWith front name count).toList := by
  rw [toList_fragmentWith, List.mem_append, List.mem_append]
  rintro ((hmem | hmem) | hmem)
  · exact hfront.no_mark hmem
  · exact hname.no_mark hmem
  · exact absurd (List.eq_of_mem_replicate hmem) (by decide)

/-- An address names the last component of its fragment, with or without a `#` and whatever slashes
follow.  What any address names has no marks, names itself, and is empty exactly if there are only
slashes in the fragment; otherwise it is the last component. -/
theorem typeNameOfAddress_last_component :
    (∀ path front name count, IsFront front → IsComponent name →
      typeNameOfAddress (path ++ "#" ++ fragmentWith front name count) = name ∧
        typeNameOfAddress (fragmentWith front name count) = name) ∧
    ∀ address,
      ('#' ∉ (typeNameOfAddress address).toList ∧ '/' ∉ (typeNameOfAddress address).toList) ∧
      typeNameOfAddress (typeNameOfAddress address) = typeNameOfAddress address ∧
      (∃ fragment, IsFragment address fragment ∧
        (typeNameOfAddress address = "" ↔ ∀ c ∈ fragment.toList, c = '/')) ∧
      (typeNameOfAddress address ≠ "" → ∃ front count, IsFront front ∧
        IsFragment address (fragmentWith front (typeNameOfAddress address) count)) := by
  constructor
  · intro path front name count hfront hname
    have hmark := not_mem_fragmentWith hfront hname count
    constructor
    · exact (typeNameOfAddress_eq_iff hname).2 ⟨front, count, hfront, hmark, .inr ⟨path, rfl⟩⟩
    · exact (typeNameOfAddress_eq_iff hname).2 ⟨front, count, hfront, hmark, .inl rfl⟩
  · intro address
    obtain ⟨hmark, hslash⟩ := not_mem_typeNameOfAddress address
    have hself : IsFragment (typeNameOfAddress address) (typeNameOfAddress address) :=
      ⟨hmark, .inl rfl⟩
    refine ⟨⟨hmark, hslash⟩, typeNameOfAddress_of_plain hself hslash,
      ⟨String.ofList (afterLast '#' address.toList), ?_, ?_⟩, fun hne => ?_⟩
    · rw [isFragment_iff, String.toList_ofList]
    · rw [String.toList_ofList]
      exact typeNameOfAddress_eq_empty_iff
    · exact (typeNameOfAddress_eq_iff ⟨hne, hmark, hslash⟩).1 rfl

/-- Two marks, two slashes before the name and one after it; and an address with slashes only. -/
theorem typeNameOfAddress_last_component_ecore :
    typeNameOfAddress "models#old.ecore#//EString/" = "EString" ∧
      typeNameOfAddress "//EString/" = "EString" ∧
      typeNameOfAddress (typeNameOfAddress "Ecore#//") = typeNameOfAddress "Ecore#//" := by
  obtain ⟨hcomponent, hany⟩ := typeNameOfAddress_last_component
  have hfront : IsFront "//" := ⟨by decide, .inr (by decide)⟩
  have hname : IsComponent "EString" := ⟨by decide, by decide, by decide⟩
  obtain ⟨hwithin, halone⟩ := hcomponent "models#old.ecore" "//" "EString" 1 hfront hname
  exact ⟨hwithin, halone, (hany "Ecore#//").2.1⟩

end ClassDiagram
