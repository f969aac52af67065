import ClassDiagram.Proofs.Files.Above
import Mathlib.Data.List.Flatten

/-!
# Missing directories

To make directories where they are missing is to do so once: afterwards the path leads to a
directory (`isDirectory_of_makeChain`), and to make them again makes nothing
(`makeDirectories_again`).

If directories cannot be made, some of those above may have been.  To try again then makes no
more of them and fails again (`makeDirectories_again_error`), as a rule for the same reason.
There is one exception.  A path can lead through a missing directory and back out of it to a file.
The first attempt makes the missing directory and then finds the file where a directory should be;
the second attempt comes all the way to the file and finds that there is no way on from it.
-/

namespace ClassDiagram

namespace FileSystem

variable {files files' made : FileSystem} {path : String} {location : Location}
  {fault : IoFault}

theorem isDirectory_iff : files.isDirectory path = true ↔
    ∃ location, files.locate path = .ok location ∧ files.entry? location = some .directory := by
  unfold isDirectory
  split
  · next location hfind =>
      obtain ⟨hlocate, hentry, -⟩ := find_eq_ok_iff.1 hfind
      exact iff_of_true rfl ⟨location, hlocate, hentry⟩
  · next hnone =>
      refine iff_of_false Bool.false_ne_true ?_
      rintro ⟨location, hlocate, hentry⟩
      exact hnone location (find_eq_ok_iff.2 ⟨hlocate, hentry, .inl rfl⟩)

theorem Keeps.isDirectory {among : Location → Prop} (h : Keeps among files files')
    (hdirectory : files.isDirectory path = true) : files'.isDirectory path = true := by
  obtain ⟨location, hlocate, hentry⟩ := isDirectory_iff.1 hdirectory
  exact isDirectory_iff.2 ⟨location, h.locate hlocate, h.stays hentry (.inl rfl)⟩

/-! ## Where directories are made -/

/-- Whatever differs is a directory that was made. -/
theorem Makes.exists_of_ne {paths : List String} (h : Makes paths files files')
    (hdiffers : files'.entry? location ≠ files.entry? location) :
    ∃ path ∈ paths, files'.locate path = .ok location ∧ files.entry? location = none ∧
      files'.entry? location = some .directory := by
  induction h with
  | refl => exact absurd rfl hdiffers
  | @step made complete path before hpath hmake ih =>
      have hkeeps := keeps_makeDirectory hmake
      obtain ⟨place, hparent, hfree, hlocate, -, hnew, rfl⟩ := makeDirectory_eq_ok_iff.1 hmake
      have hput : FileSystem.entry? (made.put place .directory hparent hfree) location =
          if location = place then some .directory else made.entry? location :=
        entry?_put location
      by_cases hplace : location = place
      · rw [if_pos hplace] at hput
        refine ⟨path, hpath, hkeeps.locate (hplace ▸ hlocate), ?_, hput⟩
        -- What had stood there would stand there still.
        rw [Option.eq_none_iff_forall_ne_some]
        intro found hfound
        have hstays := before.keeps.stays hfound (.inr not_false)
        rw [hplace, hnew] at hstays
        cases hstays
      · rw [if_neg hplace] at hput
        rw [hput] at hdiffers ⊢
        obtain ⟨other, hother, hat, hnone, hdirectory⟩ := ih hdiffers
        exact ⟨other, hother, hkeeps.locate hat, hnone, hdirectory⟩

/-! ## When they are made -/

theorem isDirectory_of_makeDirectory (h : files.makeDirectory path = .ok made) :
    made.isDirectory path = true := by
  have hkeeps := keeps_makeDirectory h
  obtain ⟨location, hparent, hfree, hlocate, -, -, rfl⟩ := makeDirectory_eq_ok_iff.1 h
  refine isDirectory_iff.2 ⟨location, hkeeps.locate hlocate, ?_⟩
  rw [entry?_put, if_pos rfl]

theorem isDirectory_of_makeChain {above : List String}
    (h : files.makeChain (path :: above) = (.ok (), made)) : made.isDirectory path = true := by
  unfold makeChain at h
  split at h
  · next complete hmade =>
      cases h
      exact isDirectory_of_makeDirectory hmade
  · split at h
    · cases h
    · next before hchain =>
        split at h
        · next complete hmade =>
            cases h
            exact isDirectory_of_makeDirectory hmade
        · split at h
          · next hdirectory =>
              cases h
              exact hdirectory
          · cases h
  · split at h
    · next hdirectory =>
        cases h
        exact hdirectory
    · cases h

/-- There is nothing to make where a directory is. -/
theorem makeChain_of_isDirectory (h : files.isDirectory path = true) (above : List String) :
    files.makeChain (path :: above) = (.ok (), files) := by
  obtain ⟨location, hlocate, hentry⟩ := isDirectory_iff.1 h
  have hmake : files.makeDirectory path = .error .alreadyExists := by
    rw [makeDirectory_of_locate hlocate, dif_neg]
    simp [hentry]
  rw [makeChain, hmake]
  exact if_pos h

/-- Directories that are there, because they were made, are not made again. -/
theorem makeDirectories_again {among : Location → Prop}
    (h : files.makeDirectories path = (.ok (), made)) (hkeeps : Keeps among made files') :
    files'.makeDirectories path = (.ok (), files') := by
  unfold makeDirectories at h ⊢
  split
  · rfl
  · next hpath =>
      rw [if_neg hpath] at h
      exact makeChain_of_isDirectory (hkeeps.isDirectory (isDirectory_of_makeChain h)) _

/-! ## When they cannot be made -/

/-- The path can be followed at all: it has characters but no NUL, and is not too long. -/
structure Fit (path : String) : Prop where
  no_nul : Char.ofNat 0 ∉ path.toList
  ne_empty : path ≠ ""
  size_le : (Utf8.encodeText path).length ≤ maxPathSize

theorem locate_of_fit (h : Fit path) (files : FileSystem) : files.locate path =
    files.walk (if Path.isAbsolute path then [] else files.working) (Path.steps path) := by
  unfold locate
  rw [if_neg h.no_nul, if_neg h.ne_empty, if_neg (Nat.not_lt.2 h.size_le)]

/-- Only a path that can be followed comes to where something is missing. -/
theorem fit_of_notFound (hpath : path ≠ "") (h : files.makeDirectory path = .error .notFound) :
    Fit path := by
  have hlocate : ∀ fault, files.locate path = .error fault → fault = .notFound := by
    intro fault hlocate
    rw [makeDirectory_of_error hlocate] at h
    exact Except.error.inj h
  refine ⟨fun hnul => ?_, hpath, Nat.not_lt.1 fun hlong => ?_⟩
  · exact absurd (hlocate .nulInPath (if_pos hnul)) nofun
  · by_cases hnul : Char.ofNat 0 ∈ path.toList
    · exact absurd (hlocate .nulInPath (if_pos hnul)) nofun
    · refine absurd (hlocate .nameTooLong ?_) nofun
      rw [locate, if_neg hnul, if_neg hpath, if_pos hlong]

/-- The paths above a path that can be followed can be followed. -/
theorem Fit.above {above : String} (h : Fit path) (habove : above ∈ Path.parents path) :
    Fit above := by
  have hpart := Path.sublist_of_mem_parents habove
  have hbytes : (Utf8.encodeText above).Sublist (Utf8.encodeText path) :=
    hpart.flatMap Utf8.encodeChar
  exact ⟨fun hnul => h.no_nul (hpart.subset hnul), Path.ne_empty_of_mem_parents habove,
    Nat.le_trans hbytes.length_le h.size_le⟩

/-- How a later attempt fails if the first one failed: for the same reason, or because a file that
took the place of a directory is now on the way. -/
def FailsAgain (fault later : IoFault) : Prop :=
  later = fault ∨ fault = .alreadyExists ∧ later = .notADirectory

/-- Whoever passes a path that cannot be made a directory fails there. -/
theorem makeDirectory_of_passes {above : String} (hpasses : Passes path above)
    (hfit : Fit path) (hfit' : Fit above)
    (h : files.makeDirectory above = .error fault) (hdirectory : files.isDirectory above = false) :
    ∃ later, FailsAgain fault later ∧ files.makeDirectory path = .error later ∧
      files.isDirectory path = false := by
  obtain ⟨step, rest, hsteps⟩ := hpasses.steps
  have hlocate : files.locate path =
      files.locate above >>= fun middle => files.walk middle (step :: rest) := by
    rw [locate_of_fit hfit, locate_of_fit hfit', hpasses.isAbsolute, hsteps, walk_append_bind]
  have hfails : ∀ {later}, files.locate path = .error later →
      files.makeDirectory path = .error later ∧ files.isDirectory path = false := by
    intro later hlater
    refine ⟨makeDirectory_of_error hlater, ?_⟩
    rw [isDirectory, find, hlater]
    rfl
  cases habove : files.locate above with
  | error found =>
      rw [makeDirectory_of_error habove] at h
      obtain rfl := Except.error.inj h
      rw [habove] at hlocate
      exact ⟨found, .inl rfl, hfails hlocate⟩
  | ok location =>
      rw [habove] at hlocate
      have hfree : files.entry? location ≠ some .directory := by
        intro hentry
        rw [isDirectory_iff.2 ⟨location, habove, hentry⟩] at hdirectory
        cases hdirectory
      have hname : endsInName above = true := by
        by_contra hname
        exact hfree (directory_of_locate habove (Bool.not_eq_true _ ▸ hname))
      cases hentry : files.entry? location with
      | none =>
          rw [makeDirectory_of_locate habove, dif_pos ⟨hname, hentry⟩] at h
          cases h
      | some found =>
          cases found with
          | directory => exact absurd hentry hfree
          | file content =>
              have hfault : fault = .alreadyExists := by
                rw [makeDirectory_of_locate habove, dif_neg (by simp [hentry])] at h
                exact (Except.error.inj h).symm
              refine ⟨.notADirectory, .inr ⟨hfault, rfl⟩, hfails (hlocate.trans ?_)⟩
              show files.walk location (step :: rest) = _
              rw [walk, hentry]

/-- Where the making of directories was given up: nothing below could be made, as a directory was
missing. -/
structure GivenUp (files made : FileSystem) (fault : IoFault) (below : List String)
    (path : String) (above : List String) : Prop where
  below : ∀ other ∈ below, files.makeDirectory other = .error .notFound
  fails : made.makeDirectory path = .error fault
  not_directory : made.isDirectory path = false
  above : fault = .notFound → made.makeChain above = (.ok (), made)

theorem exists_givenUp {paths : List String}
    (h : files.makeChain paths = (.error fault, made)) :
    ∃ below path above, paths = below ++ path :: above ∧
      GivenUp files made fault below path above := by
  induction paths with
  | nil => cases h
  | cons path above ih =>
      unfold makeChain at h
      split at h
      · cases h
      · next hmissing =>
          split at h
          · next found before hchain =>
              cases h
              obtain ⟨below, place, above, rfl, hgiven⟩ := ih hchain
              exact ⟨path :: below, place, above, rfl,
                List.forall_mem_cons.2 ⟨hmissing, hgiven.below⟩, hgiven.fails,
                hgiven.not_directory, hgiven.above⟩
          · next before hchain =>
              split at h
              · cases h
              · next found hfails =>
                  split at h
                  · cases h
                  · next hdirectory =>
                      cases h
                      refine ⟨[], path, above, rfl, List.forall_mem_nil _, hfails,
                        Bool.not_eq_true _ ▸ hdirectory, fun _ => ?_⟩
                      cases above with
                      | nil => rfl
                      | cons parent others =>
                          exact makeChain_of_isDirectory (isDirectory_of_makeChain hchain) others
      · next found hfound hfails =>
          split at h
          · cases h
          · next hdirectory =>
              cases h
              exact ⟨[], path, above, rfl, List.forall_mem_nil _, hfails,
                Bool.not_eq_true _ ▸ hdirectory, fun hmissing => absurd hmissing hfound⟩

theorem makeChain_of_error {above : List String} (hfault : fault ≠ .notFound)
    (h : files.makeDirectory path = .error fault) (hdirectory : files.isDirectory path = false) :
    files.makeChain (path :: above) = (.error fault, files) := by
  unfold makeChain
  rw [h]
  cases fault with
  | notFound => exact absurd rfl hfault
  | _ => exact if_neg (Bool.not_eq_true _ ▸ hdirectory)

/-- Where something is missing, an attempt fails if the one above does. -/
theorem makeChain_append_of_error {below paths : List String}
    (hbelow : ∀ other ∈ below, files.makeDirectory other = .error .notFound)
    (h : files.makeChain paths = (.error fault, made)) :
    files.makeChain (below ++ paths) = (.error fault, made) := by
  induction below with
  | nil => exact h
  | cons path below ih =>
      obtain ⟨hpath, hbelow⟩ := List.forall_mem_cons.1 hbelow
      rw [List.cons_append, makeChain, hpath]
      simp only [ih hbelow]

theorem makeChain_again_error {above : List String} (hpath : path ≠ "")
    (hpasses : (path :: above).Pairwise Passes) (hfit : Fit path → ∀ other ∈ above, Fit other)
    (h : files.makeChain (path :: above) = (.error fault, made)) :
    ∃ later, FailsAgain fault later ∧ made.makeChain (path :: above) = (.error later, made) := by
  obtain ⟨below, place, others, hsplit, hgiven⟩ := exists_givenUp h
  -- From below, one fails where the first attempt was given up.
  have hbelow : ∀ other ∈ below, ∃ later, FailsAgain fault later ∧
      made.makeDirectory other = .error later ∧ made.isDirectory other = false := by
    intro other hother
    cases below with
    | nil => cases hother
    | cons first below =>
        obtain ⟨rfl, habove⟩ := List.cons.inj hsplit
        have hfirst := fit_of_notFound hpath (hgiven.below path List.mem_cons_self)
        have hall : ∀ path' ∈ path :: above, Fit path' :=
          List.forall_mem_cons.2 ⟨hfirst, hfit hfirst⟩
        rw [hsplit] at hall hpasses
        exact makeDirectory_of_passes
          ((List.pairwise_append.1 hpasses).2.2 other hother place List.mem_cons_self)
          (hall other (List.mem_append_left _ hother)) (hall place (by simp))
          hgiven.fails hgiven.not_directory
  by_cases hfault : fault = .notFound
  · -- Something is missing that cannot be made.
    have hplace : made.makeChain (place :: others) = (.error fault, made) := by
      have hfails := hgiven.fails
      rw [hfault] at hfails
      simp [makeChain, hfails, hgiven.above hfault, hgiven.not_directory, hfault]
    refine ⟨fault, .inl rfl, ?_⟩
    rw [hsplit]
    refine makeChain_append_of_error (fun other hother => ?_) hplace
    obtain ⟨later, hlater, hfails, -⟩ := hbelow other hother
    rw [hfails]
    rcases hlater with rfl | ⟨hexists, -⟩
    · rw [hfault]
    · rw [hfault] at hexists
      cases hexists
  · cases below with
    | nil =>
        obtain ⟨rfl, rfl⟩ := List.cons.inj hsplit
        exact ⟨fault, .inl rfl, makeChain_of_error hfault hgiven.fails hgiven.not_directory⟩
    | cons first below =>
        obtain ⟨rfl, -⟩ := List.cons.inj hsplit
        obtain ⟨later, hlater, hfails, hdirectory⟩ := hbelow path List.mem_cons_self
        refine ⟨later, hlater, makeChain_of_error ?_ hfails hdirectory⟩
        rcases hlater with rfl | ⟨-, rfl⟩
        · exact hfault
        · exact nofun

/-- Directories that could not be made cannot be made later, and no more of them are made. -/
theorem makeDirectories_again_error (h : files.makeDirectories path = (.error fault, made)) :
    ∃ later, FailsAgain fault later ∧ made.makeDirectories path = (.error later, made) := by
  unfold makeDirectories at h ⊢
  split at h
  · cases h
  · next hpath =>
      rw [if_neg hpath]
      exact makeChain_again_error hpath (pairwise_passes path)
        (fun hfit other hother => hfit.above hother) h

end FileSystem

end ClassDiagram
