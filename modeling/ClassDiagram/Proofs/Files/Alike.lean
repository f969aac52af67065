import ClassDiagram.Proofs.Files.Tree

/-!
# The same directories

Files come and go while outputs are written, but directories stay and no new ones appear:
`SameDirectories files files'`.  Where a path leads is decided by the directories on the way, so
that a file in a directory is written to the same place in either (`locate_join_eq`), and can be
written to the one exactly if it can to the other (`write_cases`).
-/

namespace ClassDiagram

namespace FileSystem

variable {files files' files'' made written : FileSystem} {path directory : String}
  {location : Location} {content : Bytes}

/-- The same directories are there; the files may differ. -/
structure SameDirectories (files files' : FileSystem) : Prop where
  working_eq : files'.working = files.working
  directory_iff : ∀ location,
    files'.entry? location = some .directory ↔ files.entry? location = some .directory

namespace SameDirectories

theorem refl (files : FileSystem) : SameDirectories files files := ⟨rfl, fun _ => Iff.rfl⟩

theorem symm (h : SameDirectories files files') : SameDirectories files' files :=
  ⟨h.working_eq.symm, fun location => (h.directory_iff location).symm⟩

theorem trans (h : SameDirectories files files') (h' : SameDirectories files' files'') :
    SameDirectories files files'' :=
  ⟨h'.working_eq.trans h.working_eq,
    fun location => (h'.directory_iff location).trans (h.directory_iff location)⟩

theorem keeps (h : SameDirectories files files') : Keeps (fun _ => True) files files' := by
  refine ⟨h.working_eq, fun {location entry} hentry hkept => ?_⟩
  obtain rfl := hkept.resolve_right (not_not_intro trivial)
  exact (h.directory_iff location).2 hentry

end SameDirectories

/-! ## Files that come and go -/

theorem sameDirectories_put {hparent : files.entry? location.dropLast = some .directory}
    {hnew : files.entry? location ≠ some .directory} :
    SameDirectories files (files.put location (.file content) hparent hnew) := by
  refine ⟨rfl, fun other => ?_⟩
  rw [entry?_put]
  split
  · next hsame =>
      rw [hsame]
      exact iff_of_false (fun h => Entry.noConfusion (Option.some.inj h)) hnew
  · rfl

theorem sameDirectories_of_write (h : files.write path content = .ok written) :
    SameDirectories files written := by
  obtain ⟨location, -, -, -, -, rfl⟩ := write_eq_ok_iff.1 h
  exact sameDirectories_put

theorem sameDirectories_remove_write (hwrite : files.write path content = .ok written) :
    SameDirectories files (written.remove path) := by
  obtain ⟨place, -, hnew, hworking, hentries⟩ := entry?_remove_write hwrite
  refine ⟨hworking, fun other => ?_⟩
  rw [hentries]
  split
  · next hsame =>
      rw [hsame]
      exact iff_of_false nofun hnew
  · rfl

/-! ## Writing to either -/

/-- A file is written to the same place, or cannot be for the same reason. -/
theorem write_cases (hlocate : files'.locate path = files.locate path)
    (hdirectory : ∀ location,
      files'.entry? location = some .directory ↔ files.entry? location = some .directory)
    (content : Bytes) :
    (∃ fault, files.write path content = .error fault ∧
        files'.write path content = .error fault) ∨
      ∃ location hparent hnew hparent' hnew',
        files.write path content = .ok (files.put location (.file content) hparent hnew) ∧
        files'.write path content = .ok (files'.put location (.file content) hparent' hnew') := by
  cases hplace : files.locate path with
  | error fault =>
      rw [hplace] at hlocate
      exact .inl ⟨fault, write_of_error hplace content, write_of_error hlocate content⟩
  | ok location =>
      rw [hplace] at hlocate
      rw [write_of_locate hplace, write_of_locate hlocate]
      by_cases hfit : (endsInName path = true ∧ Path.endsWithSlash path = false) ∧
          files.entry? location ≠ some .directory
      · have hfit' := And.imp_right (mt (hdirectory location).1) hfit
        rw [dif_pos hfit, dif_pos hfit']
        exact .inr ⟨location, _, _, _, _, rfl, rfl⟩
      · have hfit' := mt (And.imp_right (mt (hdirectory location).2)) hfit
        rw [dif_neg hfit, dif_neg hfit']
        exact .inl ⟨_, rfl, rfl⟩

/-- The path leads to a directory.  The empty path leads to the working directory. -/
def LeadsIn (files : FileSystem) (path : String) : Prop :=
  ∃ top, files.walk (if Path.isAbsolute path then [] else files.working) (Path.steps path) =
    .ok top ∧ files.entry? top = some .directory

theorem SameDirectories.leadsIn (h : SameDirectories files files')
    (hdirectory : files.LeadsIn path) : files'.LeadsIn path := by
  obtain ⟨top, hwalk, htop⟩ := hdirectory
  refine ⟨top, ?_, (h.directory_iff top).2 htop⟩
  rw [h.working_eq]
  exact h.keeps.walk hwalk

/-- The directories decide where a file in one of them is. -/
theorem SameDirectories.locate_join_eq (h : SameDirectories files files')
    (hdirectory : files.LeadsIn directory) {name : List Char} (hname : Path.IsName name) :
    files'.locate (Path.join directory (String.ofList name)) =
      files.locate (Path.join directory (String.ofList name)) := by
  have hrelative := Path.isAbsolute_ofList hname.not_slash
  obtain ⟨top, hwalk, htop⟩ := hdirectory
  obtain ⟨top', hwalk', htop'⟩ := h.leadsIn ⟨top, hwalk, htop⟩
  have hsame : top' = top := by
    have hkept := h.keeps.walk hwalk
    rw [← h.working_eq] at hkept
    exact Except.ok.inj (hwalk'.symm.trans hkept)
  rw [hsame] at hwalk' htop'
  have hlast : files'.walk top [name] = files.walk top [name] := by
    simp only [walk, htop, htop']
  unfold locate
  rw [Path.isAbsolute_join hrelative, Path.steps_join hrelative, Path.steps_ofList hname,
    walk_append_bind, walk_append_bind, hwalk, hwalk']
  simp only [bind, Except.bind, hlast]

end FileSystem

end ClassDiagram
