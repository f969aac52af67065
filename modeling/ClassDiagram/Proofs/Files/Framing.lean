import ClassDiagram.Files.FileSystem
import ClassDiagram.Proofs.Files.Path
import ClassDiagram.Proofs.Script

/-!
# What operations on files leave alone

Writing a file changes what stands at its own location, and making directories changes nothing
that is there.  `Keeps among files files'` says that `files'` has what `files` has, but for files
at the locations `among`.  A directory is never lost, so that a path that leads somewhere leads
there still (`Keeps.locate`), and a file outside `among` is found as before (`Keeps.find`).
-/

namespace ClassDiagram

namespace FileSystem

variable {files files' files'' : FileSystem} {path : String} {location : Location}
  {entry : Entry} {content : Bytes}

/-! ## Reading -/

theorem find_eq_ok_iff : files.find path = .ok (location, entry) ↔
    files.locate path = .ok location ∧ files.entry? location = some entry ∧
      (entry = .directory ∨ Path.endsWithSlash path = false) := by
  unfold find
  rw [bind_eq_ok]
  constructor
  · rintro ⟨found, hlocate, hfound⟩
    split at hfound
    · cases hfound
    · next hentry =>
        cases hfound
        exact ⟨hlocate, hentry, .inl rfl⟩
    · next hentry =>
        split at hfound
        · cases hfound
        · next hslash =>
            cases hfound
            exact ⟨hlocate, hentry, .inr (Bool.not_eq_true _ ▸ hslash)⟩
  · rintro ⟨hlocate, hentry, hslash⟩
    refine ⟨location, hlocate, ?_⟩
    cases entry with
    | directory =>
        simp only [hentry]
        rfl
    | file content =>
        have hslash := hslash.resolve_left Entry.noConfusion
        simp only [hentry, hslash]
        rfl

theorem read_eq_ok_iff : files.read path = .ok content ↔
    ∃ location, files.find path = .ok (location, .file content) := by
  unfold read
  rw [bind_eq_ok]
  constructor
  · rintro ⟨⟨location, found⟩, hfind, hread⟩
    cases found with
    | directory => cases hread
    | file content' => exact ⟨location, Except.ok.inj hread ▸ hfind⟩
  · rintro ⟨location, hfind⟩
    exact ⟨_, hfind, rfl⟩

theorem isFile_iff : files.isFile path = true ↔
    ∃ location content, files.find path = .ok (location, .file content) := by
  unfold isFile
  split
  · next location content hfind => exact iff_of_true rfl ⟨location, content, hfind⟩
  · next hnone =>
      refine iff_of_false Bool.false_ne_true ?_
      rintro ⟨location, content, hfind⟩
      exact hnone location content hfind

/-! ## Where a name leads -/

theorem walk_append {location target : Location} {steps steps' : List (List Char)}
    (h : files.walk location (steps ++ steps') = .ok target) :
    ∃ middle, files.walk middle steps' = .ok target := by
  induction steps generalizing location with
  | nil => exact ⟨location, h⟩
  | cons step steps ih => exact ih (walk_cons_eq_ok_iff.1 h).2.2

/-- Single dots lead nowhere else. -/
theorem walk_dots {location target : Location} {dots : List (List Char)}
    (hdots : ∀ dot ∈ dots, dot = ['.']) (h : files.walk location dots = .ok target) :
    target = location := by
  induction dots generalizing location with
  | nil => exact (Except.ok.inj h).symm
  | cons dot dots ih =>
      obtain ⟨rfl, hrest⟩ := List.forall_mem_cons.1 hdots
      exact ih hrest (walk_cons_eq_ok_iff.1 h).2.2

/-- A path with the name of a file leads to a location of that name. -/
theorem getLast?_of_locate {name : List Char} (hname : Path.fileName? path = some name)
    (h : files.locate path = .ok location) : location.getLast? = some name := by
  obtain ⟨hname, front, dots, hsteps, hdots⟩ := Path.exists_steps_of_fileName? hname
  have hwalk := (locate_eq_ok_iff.1 h).2
  rw [hsteps] at hwalk
  obtain ⟨middle, hwalk⟩ := walk_append hwalk
  have htarget := walk_dots hdots (walk_cons_eq_ok_iff.1 hwalk).2.2
  rw [htarget, descend, if_neg hname.not_current, if_neg hname.not_parent]
  exact List.getLast?_concat

/-! ## What stays -/

/-- What stood there still stands there, but for files at the given locations. -/
structure Keeps (among : Location → Prop) (files files' : FileSystem) : Prop where
  working : files'.working = files.working
  stays : ∀ {location : Location} {entry : Entry}, files.entry? location = some entry →
    entry = .directory ∨ ¬among location → files'.entry? location = some entry

namespace Keeps

variable {among among' : Location → Prop}

theorem refl (among : Location → Prop) (files : FileSystem) : Keeps among files files :=
  ⟨rfl, fun hentry _ => hentry⟩

theorem trans (h : Keeps among files files') (h' : Keeps among files' files'') :
    Keeps among files files'' :=
  ⟨h'.working.trans h.working, fun hentry hkept => h'.stays (h.stays hentry hkept) hkept⟩

theorem mono (h : Keeps among files files') (hle : ∀ location, among location → among' location) :
    Keeps among' files files' :=
  ⟨h.working, fun hentry hkept => h.stays hentry (hkept.imp_right (mt (hle _)))⟩

variable (h : Keeps among files files')

include h

/-- Directories on the way are still there. -/
theorem walk {location target : Location} {steps : List (List Char)}
    (hwalk : files.walk location steps = .ok target) :
    files'.walk location steps = .ok target := by
  induction steps generalizing location with
  | nil => exact hwalk
  | cons step steps ih =>
      obtain ⟨hentry, hshort, hrest⟩ := walk_cons_eq_ok_iff.1 hwalk
      exact walk_cons_eq_ok_iff.2 ⟨h.stays hentry (.inl rfl), hshort, ih hrest⟩

theorem locate (hlocate : files.locate path = .ok location) :
    files'.locate path = .ok location := by
  obtain ⟨hpath, hwalk⟩ := locate_eq_ok_iff.1 hlocate
  refine locate_eq_ok_iff.2 ⟨hpath, ?_⟩
  rw [h.working]
  exact h.walk hwalk

theorem find (hfind : files.find path = .ok (location, entry))
    (hkept : entry = .directory ∨ ¬among location) : files'.find path = .ok (location, entry) := by
  obtain ⟨hlocate, hentry, hslash⟩ := find_eq_ok_iff.1 hfind
  exact find_eq_ok_iff.2 ⟨h.locate hlocate, h.stays hentry hkept, hslash⟩

end Keeps

/-! ## Operations -/

/-- What is put at a location takes the place of a file at most. -/
theorem keeps_put {among : Location → Prop}
    {hparent : files.entry? location.dropLast = some .directory}
    {hnew : files.entry? location ≠ some .directory}
    (h : among location ∨ files.entry? location = none) :
    Keeps among files (files.put location entry hparent hnew) := by
  refine ⟨rfl, fun {other found} hfound hkept => ?_⟩
  have hother : other ≠ location := by
    rintro rfl
    rcases h with hamong | hnone
    · rcases hkept with rfl | hkept
      · exact hnew hfound
      · exact hkept hamong
    · rw [hnone] at hfound
      cases hfound
  rw [entry?_put, if_neg hother, hfound]

theorem write_of_error {fault : IoFault} (h : files.locate path = .error fault)
    (content : Bytes) : files.write path content = .error fault := by
  unfold write
  split
  · next found hfound =>
      obtain rfl := Except.error.inj (h.symm.trans hfound)
      rfl
  · next location hfound =>
      rw [h] at hfound
      cases hfound

theorem write_of_locate (h : files.locate path = .ok location) (content : Bytes) :
    files.write path content =
      if hplace : (endsInName path = true ∧ Path.endsWithSlash path = false) ∧
          files.entry? location ≠ some .directory then
        .ok (files.put location (.file content) (parent_of_locate h hplace.1.1) hplace.2)
      else .error .isADirectory := by
  unfold write
  split
  · next fault hfound =>
      rw [h] at hfound
      cases hfound
  · next place hfound =>
      obtain rfl := Except.ok.inj (h.symm.trans hfound)
      rfl

theorem write_eq_ok_iff : files.write path content = .ok files' ↔
    ∃ location hparent hnew, files.locate path = .ok location ∧
      (endsInName path = true ∧ Path.endsWithSlash path = false) ∧
      files.put location (.file content) hparent hnew = files' := by
  constructor
  · intro h
    cases hlocate : files.locate path with
    | error fault =>
        rw [write_of_error hlocate] at h
        cases h
    | ok location =>
        rw [write_of_locate hlocate] at h
        split at h
        · next hplace => exact ⟨location, _, hplace.2, rfl, hplace.1, Except.ok.inj h⟩
        · cases h
  · rintro ⟨location, hparent, hnew, hlocate, hname, rfl⟩
    rw [write_of_locate hlocate, dif_pos ⟨hname, hnew⟩]

theorem makeDirectory_of_error {fault : IoFault} (h : files.locate path = .error fault) :
    files.makeDirectory path = .error fault := by
  unfold makeDirectory
  split
  · next found hfound =>
      obtain rfl := Except.error.inj (h.symm.trans hfound)
      rfl
  · next location hfound =>
      rw [h] at hfound
      cases hfound

theorem makeDirectory_of_locate (h : files.locate path = .ok location) :
    files.makeDirectory path =
      if hplace : endsInName path = true ∧ files.entry? location = none then
        .ok (files.put location .directory (parent_of_locate h hplace.1) (by simp [hplace.2]))
      else .error .alreadyExists := by
  unfold makeDirectory
  split
  · next fault hfound =>
      rw [h] at hfound
      cases hfound
  · next place hfound =>
      obtain rfl := Except.ok.inj (h.symm.trans hfound)
      rfl

theorem makeDirectory_eq_ok_iff : files.makeDirectory path = .ok files' ↔
    ∃ location hparent hfree, files.locate path = .ok location ∧ endsInName path = true ∧
      files.entry? location = none ∧ files.put location .directory hparent hfree = files' := by
  constructor
  · intro h
    cases hlocate : files.locate path with
    | error fault =>
        rw [makeDirectory_of_error hlocate] at h
        cases h
    | ok location =>
        rw [makeDirectory_of_locate hlocate] at h
        split at h
        · next hplace => exact ⟨location, _, _, rfl, hplace.1, hplace.2, Except.ok.inj h⟩
        · cases h
  · rintro ⟨location, hparent, hfree, hlocate, hname, hnew, rfl⟩
    rw [makeDirectory_of_locate hlocate, dif_pos ⟨hname, hnew⟩]

theorem keeps_makeDirectory (h : files.makeDirectory path = .ok files') :
    Keeps (fun _ => False) files files' := by
  obtain ⟨location, hparent, hfree, -, -, hnew, rfl⟩ := makeDirectory_eq_ok_iff.1 h
  exact keeps_put (.inr hnew)

/-- Some of the paths are made directories, one after the other. -/
inductive Makes (paths : List String) : FileSystem → FileSystem → Prop where
  | refl (files : FileSystem) : Makes paths files files
  | step {files made complete : FileSystem} {path : String} (before : Makes paths files made)
      (hpath : path ∈ paths) (hmake : made.makeDirectory path = .ok complete) :
      Makes paths files complete

theorem Makes.mono {paths paths' : List String} (h : Makes paths files files')
    (hle : paths ⊆ paths') : Makes paths' files files' := by
  induction h with
  | refl => exact .refl _
  | step _ hpath hmake ih => exact .step ih (hle hpath) hmake

/-- Whether or not the directories above a path can all be made, those that can are. -/
theorem makes_makeChain (files : FileSystem) (paths : List String) :
    Makes paths files (files.makeChain paths).2 := by
  induction paths with
  | nil => exact .refl _
  | cons path above ih =>
      have habove := ih.mono (List.subset_cons_self path above)
      unfold makeChain
      split
      · next made hmade => exact .step (.refl _) List.mem_cons_self hmade
      · split
        · next made hchain =>
            rw [hchain] at habove
            exact habove
        · next made hchain =>
            rw [hchain] at habove
            split
            · next complete hcomplete => exact .step habove List.mem_cons_self hcomplete
            · split
              · exact habove
              · exact habove
      · split
        · exact .refl _
        · exact .refl _

theorem makes_of_makeDirectories {outcome : Except IoFault Unit}
    (h : files.makeDirectories path = (outcome, files')) :
    Makes (path :: Path.parents path) files files' := by
  unfold makeDirectories at h
  split at h
  · obtain ⟨-, rfl⟩ := Prod.mk.inj h
    exact .refl _
  · have hmakes := makes_makeChain files (path :: Path.parents path)
    rwa [h] at hmakes

/-- Making directories takes nothing away. -/
theorem Makes.keeps {paths : List String} (h : Makes paths files files') :
    Keeps (fun _ => False) files files' := by
  induction h with
  | refl => exact .refl _ _
  | step _ _ hmake ih => exact ih.trans (keeps_makeDirectory hmake)

/-- A file that is written holds what was written, and nothing else is written. -/
theorem exists_keeps_of_write (h : files.write path content = .ok files') :
    ∃ location, Keeps (· = location) files files' ∧
      files'.find path = .ok (location, .file content) := by
  obtain ⟨location, hparent, hnew, hlocate, ⟨-, hslash⟩, rfl⟩ := write_eq_ok_iff.1 h
  have hkeeps : Keeps (· = location) files
      (files.put location (.file content) hparent hnew) := keeps_put (.inl rfl)
  refine ⟨location, hkeeps, find_eq_ok_iff.2 ⟨hkeeps.locate hlocate, ?_, .inr hslash⟩⟩
  rw [entry?_put, if_pos rfl]

end FileSystem

end ClassDiagram
