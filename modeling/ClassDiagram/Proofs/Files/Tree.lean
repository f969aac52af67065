import ClassDiagram.Proofs.Files.Framing
import Mathlib.Data.List.Induction

/-!
# Files and directories as a tree

In a file system everything stands in a directory, and the working directory is one of them.
Above whatever stands somewhere there are directories (`above`), so that nothing stands below a
file (`nothing_below`), and to remove a file is to remove no more than that
(`entry?_removeTree`).  A path that does not end in a name leads to a directory
(`directory_of_locate`).
-/

namespace ClassDiagram

namespace FileSystem

variable {files files' written : FileSystem} {path : String} {location : Location} {entry : Entry}
  {content : Bytes}

/-! ## Above and below -/

/-- Above whatever stands somewhere there are directories. -/
theorem above {rest : Location} (hrest : rest ≠ [])
    (hentry : files.entry? (location ++ rest) = some entry) :
    files.entry? location = some .directory := by
  induction rest using List.reverseRecOn generalizing entry with
  | nil => exact absurd rfl hrest
  | append_singleton rest name ih =>
      have hparent : files.entry? (location ++ (rest ++ [name])).dropLast = some .directory :=
        files.parent_directory hentry
      rw [← List.append_assoc, List.dropLast_concat] at hparent
      by_cases hmore : rest = []
      · rwa [hmore, List.append_nil] at hparent
      · exact ih hmore hparent

theorem nothing_below (hentry : files.entry? location ≠ some .directory)
    {rest : Location} (hrest : rest ≠ []) : files.entry? (location ++ rest) = none := by
  rw [Option.eq_none_iff_forall_ne_some]
  intro entry hbelow
  exact hentry (above hrest hbelow)

/-- The way to the working directory leads through directories. -/
theorem not_prefix_working (hentry : files.entry? location ≠ some .directory) :
    ¬location <+: files.working := by
  rintro ⟨rest, hrest⟩
  have hworking : files.entry? (location ++ rest) = some .directory :=
    hrest ▸ files.working_directory
  by_cases hnil : rest = []
  · rw [hnil, List.append_nil] at hworking
    exact hentry hworking
  · exact hentry (above hnil hworking)

/-- Where no directory stands, nothing else is removed with what does. -/
theorem entry?_removeTree (hentry : files.entry? location ≠ some .directory) (other : Location) :
    FileSystem.entry? (files.removeTree location) other =
      if other = location then none else files.entry? other := by
  have hne : location ≠ [] := ne_nil_of_not_directory hentry
  show entryIn? (files.entries.filterKeys _) other = _
  rw [entryIn?_filterKeys]
  by_cases hsame : other = location
  · rw [if_pos hsame, if_neg]
    simp [hsame, hne, not_prefix_working hentry]
  · rw [if_neg hsame]
    by_cases hbelow : location <+: other
    · obtain ⟨rest, rfl⟩ := hbelow
      have hrest : rest ≠ [] := by
        rintro rfl
        exact hsame (List.append_nil location)
      have hnone : entryIn? files.entries (location ++ rest) = none := nothing_below hentry hrest
      rw [hnone, ite_self]
      exact hnone.symm
    · have hnot : location.isPrefixOf other = false := by
        rwa [← Bool.not_eq_true, List.isPrefixOf_iff_prefix]
      rw [if_pos (.inr (by simp [hnot]))]
      rfl

/-! ## Where paths lead -/

theorem walk_append_bind (files : FileSystem) (location : Location) (steps steps' : Location) :
    files.walk location (steps ++ steps') =
      files.walk location steps >>= fun middle => files.walk middle steps' := by
  induction steps generalizing location with
  | nil => rfl
  | cons step steps ih =>
      rw [List.cons_append, walk, walk]
      cases files.entry? location with
      | none => rfl
      | some found =>
          cases found with
          | file content => rfl
          | directory =>
              dsimp only
              split
              · rfl
              · exact ih _

/-- A path that does not end in a name leads to a directory. -/
theorem directory_of_locate (hlocate : files.locate path = .ok location)
    (hname : endsInName path = false) : files.entry? location = some .directory := by
  have hwalk := (locate_eq_ok_iff.1 hlocate).2
  unfold endsInName at hname
  split at hname
  · next hlast =>
      -- Without a step there is only the root or the working directory.
      rw [List.getLast?_eq_none_iff.1 hlast] at hwalk
      obtain rfl := Except.ok.inj hwalk
      split
      · rfl
      · exact files.working_directory
  · next step hlast =>
      obtain ⟨front, hsteps⟩ := List.getLast?_eq_some_iff.1 hlast
      rw [hsteps] at hwalk
      obtain ⟨middle, hmiddle, htarget⟩ := walk_concat_eq_ok hwalk
      rw [← htarget, descend]
      split
      · exact hmiddle
      · next hcurrent =>
          have hparent : step = ['.', '.'] := by simpa [hcurrent] using hname
          rw [if_pos hparent]
          exact files.parent_directory hmiddle

theorem exists_fileName_of_endsInName (h : endsInName path = true) :
    ∃ name, Path.fileName? path = some name := by
  unfold endsInName at h
  split at h
  · cases h
  · next step hlast =>
      obtain ⟨front, hsteps⟩ := List.getLast?_eq_some_iff.1 hlast
      obtain ⟨hcurrent, hparent⟩ := Bool.and_eq_true_iff.1 h
      have hstep : Path.componentOf? step = some (.name step) := by
        rw [Path.componentOf?_eq_name_iff]
        exact ⟨rfl, of_decide_eq_true hcurrent, of_decide_eq_true hparent⟩
      have hcomponent : (Path.components path).getLast? = some (.name step) := by
        rw [Path.components, hsteps, List.filterMap_append, List.filterMap_cons_some hstep,
          List.filterMap_nil, List.getLast?_append, List.getLast?_concat, Option.some_or]
      exact ⟨step, by rw [Path.fileName?, hcomponent]⟩

/-- Only a path with the name of a file leads to one. -/
theorem exists_fileName (hfind : files.find path = .ok (location, .file content)) :
    ∃ name, Path.fileName? path = some name := by
  obtain ⟨hlocate, hentry, -⟩ := find_eq_ok_iff.1 hfind
  apply exists_fileName_of_endsInName
  by_contra hname
  rw [directory_of_locate hlocate (Bool.not_eq_true _ ▸ hname)] at hentry
  cases hentry

/-! ## Operations -/

/-- To write a file and to remove it again leaves the place of the file empty and everything else
as it was. -/
theorem entry?_remove_write (hwrite : files.write path content = .ok written) :
    ∃ location, files.locate path = .ok location ∧
      files.entry? location ≠ some .directory ∧
      (written.remove path).working = files.working ∧
      ∀ other, FileSystem.entry? (written.remove path) other =
        if other = location then none else files.entry? other := by
  obtain ⟨location, hparent, hnew, hlocate, ⟨-, hslash⟩, rfl⟩ := write_eq_ok_iff.1 hwrite
  have hput : FileSystem.entry? (files.put location (.file content) hparent hnew) location =
      some (.file content) := by
    rw [entry?_put, if_pos rfl]
  have hfile : FileSystem.entry? (files.put location (.file content) hparent hnew) location ≠
      some .directory := by
    rw [hput]
    exact fun hsame => Entry.noConfusion (Option.some.inj hsame)
  have hkeeps : Keeps (fun _ => True) files
      (files.put location (.file content) hparent hnew) := keeps_put (.inl trivial)
  have hremove : (files.put location (.file content) hparent hnew).remove path =
      (files.put location (.file content) hparent hnew).removeTree location := by
    rw [remove, find_eq_ok_iff.2 ⟨hkeeps.locate hlocate, hput, .inr hslash⟩]
  rw [hremove]
  refine ⟨location, hlocate, hnew, rfl, fun other => ?_⟩
  rw [entry?_removeTree hfile, entry?_put]
  split <;> rfl

end FileSystem

end ClassDiagram
