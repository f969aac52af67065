import ClassDiagram.Proofs.Files.Alike
import ClassDiagram.Proofs.Files.Batch
import ClassDiagram.Proofs.Insertion

/-!
# The order of listing

A directory is listed in the order of the entries, and nothing else depends on that order.  File
systems with the `SameFiles` are read alike, and every operation leaves the same files in them.  A
batch takes its inputs in the order of their names, so that its run is the same however the
directory is listed (`sameRun_convertDirectory`).
-/

namespace ClassDiagram

namespace FileSystem

variable {files files' : FileSystem} {path : String} {location : Location}

/-- The same entries, perhaps in another order. -/
structure Relists (files files' : FileSystem) : Prop where
  working_eq : files'.working = files.working
  perm : files'.entries.entries.Perm files.entries.entries

/-- The same files and directories are there. -/
structure SameFiles (files files' : FileSystem) : Prop where
  working_eq : files'.working = files.working
  entry?_eq : ∀ location, files'.entry? location = files.entry? location

theorem Relists.sameFiles (h : Relists files files') : SameFiles files files' := by
  refine ⟨h.working_eq, fun location => ?_⟩
  unfold entry? entryIn?
  split
  · rfl
  · apply Option.ext
    intro entry
    rw [OrderedMap.get?_eq_some_iff, OrderedMap.get?_eq_some_iff]
    exact h.perm.mem_iff

/-- Names sorted for a batch are in order. -/
theorem pairwise_mergeSort_names (names : List String) :
    (names.mergeSort fun a b => decide (a ≤ b)).Pairwise (· ≤ ·) := by
  have htrans : ∀ a b c : String, decide (a ≤ b) = true → decide (b ≤ c) = true →
      decide (a ≤ c) = true := by
    intro a b c hab hbc
    exact decide_eq_true (String.le_trans (of_decide_eq_true hab) (of_decide_eq_true hbc))
  have htotal : ∀ a b : String, (decide (a ≤ b) || decide (b ≤ a)) = true := by
    intro a b
    simpa using String.le_total a b
  exact (List.pairwise_mergeSort htrans htotal names).imp of_decide_eq_true

namespace SameFiles

theorem put (h : SameFiles files files') {entry : Entry}
    {hparent : files.entry? location.dropLast = some .directory}
    {hnew : files.entry? location ≠ some .directory}
    {hparent' : files'.entry? location.dropLast = some .directory}
    {hnew' : files'.entry? location ≠ some .directory} :
    SameFiles (files.put location entry hparent hnew)
      (files'.put location entry hparent' hnew') := by
  refine ⟨h.working_eq, fun other => ?_⟩
  rw [entry?_put, entry?_put, h.entry?_eq]

theorem removeTree (h : SameFiles files files') (location : Location) :
    SameFiles (files.removeTree location) (files'.removeTree location) := by
  refine ⟨h.working_eq, fun other => ?_⟩
  have hentry : entryIn? files'.entries other = entryIn? files.entries other := h.entry?_eq other
  show entryIn? (files'.entries.filterKeys _) other = entryIn? (files.entries.filterKeys _) other
  rw [entryIn?_filterKeys, entryIn?_filterKeys, hentry, h.working_eq]

/-! ## Reading -/

section

variable (h : SameFiles files files')

include h

theorem walk_eq (location : Location) (steps : List (List Char)) :
    files'.walk location steps = files.walk location steps := by
  induction steps generalizing location with
  | nil => rfl
  | cons step steps ih => simp only [walk, h.entry?_eq, ih]

theorem locate_eq (path : String) : files'.locate path = files.locate path := by
  unfold locate
  rw [h.working_eq, h.walk_eq]

theorem find_eq (path : String) : files'.find path = files.find path := by
  unfold find
  simp only [h.locate_eq, h.entry?_eq]

theorem isFile_eq (path : String) : files'.isFile path = files.isFile path := by
  unfold isFile
  rw [h.find_eq]

theorem isDirectory_eq (path : String) : files'.isDirectory path = files.isDirectory path := by
  unfold isDirectory
  rw [h.find_eq]

theorem readText_eq (path : String) : files'.readText path = files.readText path := by
  unfold readText read
  rw [h.find_eq]

/-! ## Writing -/

theorem remove (path : String) : SameFiles (files.remove path) (files'.remove path) := by
  unfold FileSystem.remove
  rw [h.find_eq]
  split
  · exact h.removeTree _
  · exact h

theorem write_cases (path : String) (content : Bytes) :
    (∃ fault, files.write path content = .error fault ∧
        files'.write path content = .error fault) ∨
      ∃ written written', SameFiles written written' ∧
        files.write path content = .ok written ∧ files'.write path content = .ok written' := by
  rcases FileSystem.write_cases (h.locate_eq path) (fun location => by rw [h.entry?_eq]) content
    with hfails | ⟨location, hparent, hnew, hparent', hnew', hwrite, hwrite'⟩
  · exact .inl hfails
  · exact .inr ⟨_, _, h.put, hwrite, hwrite'⟩

theorem makeDirectory_cases (path : String) :
    (∃ fault, files.makeDirectory path = .error fault ∧
        files'.makeDirectory path = .error fault) ∨
      ∃ made made', SameFiles made made' ∧
        files.makeDirectory path = .ok made ∧ files'.makeDirectory path = .ok made' := by
  have hsame := h.locate_eq path
  cases hlocate : files.locate path with
  | error fault =>
      rw [hlocate] at hsame
      exact .inl ⟨fault, makeDirectory_of_error hlocate, makeDirectory_of_error hsame⟩
  | ok location =>
      rw [hlocate] at hsame
      rw [makeDirectory_of_locate hlocate, makeDirectory_of_locate hsame]
      by_cases hplace : endsInName path = true ∧ files.entry? location = none
      · have hplace' := And.imp_right (h.entry?_eq location).trans hplace
        rw [dif_pos hplace, dif_pos hplace']
        exact .inr ⟨_, _, h.put, rfl, rfl⟩
      · have hplace' := mt (And.imp_right (h.entry?_eq location).symm.trans) hplace
        rw [dif_neg hplace, dif_neg hplace']
        exact .inl ⟨_, rfl, rfl⟩

theorem makeChain (paths : List String) :
    (files'.makeChain paths).1 = (files.makeChain paths).1 ∧
      SameFiles (files.makeChain paths).2 (files'.makeChain paths).2 := by
  induction paths with
  | nil => exact ⟨rfl, h⟩
  | cons path above ih =>
      rcases h.makeDirectory_cases path with
        ⟨fault, hfails, hfails'⟩ | ⟨made, made', hsame, hmade, hmade'⟩
      · have hdirectory := h.isDirectory_eq path
        unfold FileSystem.makeChain
        rw [hfails, hfails']
        split
        · next hnone => cases hnone
        · -- A directory above is missing.
          rcases hchain : files.makeChain above with ⟨outcome, made⟩
          rcases hchain' : files'.makeChain above with ⟨outcome', made'⟩
          rw [hchain, hchain'] at ih
          have hsame : SameFiles made made' := ih.2
          obtain rfl : outcome' = outcome := ih.1
          cases outcome' with
          | error found => exact ⟨rfl, hsame⟩
          | ok done =>
              dsimp only
              rcases hsame.makeDirectory_cases path with
                ⟨found, hfound, hfound'⟩ | ⟨complete, complete', hcomplete, hmade, hmade'⟩
              · rw [hfound, hfound', hsame.isDirectory_eq]
                dsimp only
                split
                · exact ⟨rfl, hsame⟩
                · exact ⟨rfl, hsame⟩
              · rw [hmade, hmade']
                exact ⟨rfl, hcomplete⟩
        · rw [hdirectory]
          split
          · exact ⟨rfl, h⟩
          · exact ⟨rfl, h⟩
      · rw [FileSystem.makeChain, FileSystem.makeChain, hmade, hmade']
        exact ⟨rfl, hsame⟩

theorem makeDirectories (path : String) :
    (files'.makeDirectories path).1 = (files.makeDirectories path).1 ∧
      SameFiles (files.makeDirectories path).2 (files'.makeDirectories path).2 := by
  unfold FileSystem.makeDirectories
  split
  · exact ⟨rfl, h⟩
  · exact h.makeChain _

end

/-! ## Listing -/

/-- What stands directly in a directory is listed. -/
theorem mem_of_namesIn {names : List String} {top : Location}
    (hfind : files.find path = .ok (top, .directory)) (h : files.namesIn path = .ok names)
    (name : String) : name ∈ names ↔ files.entry? (top ++ [name.toList]) ≠ none := by
  rw [namesIn, hfind] at h
  obtain rfl := Except.ok.inj h
  have hentry : files.entry? (top ++ [name.toList]) ≠ none ↔
      top ++ [name.toList] ∈ files.entries.keys := by
    rw [FileSystem.entry?, entryIn?, if_neg (by simp), ne_eq, OrderedMap.get?_eq_none_iff, not_not]
  rw [hentry]
  constructor
  · intro hmem
    obtain ⟨location, hlocation, hname⟩ := List.mem_filterMap.1 hmem
    split at hname
    · next step hbelow =>
        obtain rfl := Option.some.inj hname
        rw [eq_append_of_below? hbelow] at hlocation
        rwa [String.toList_ofList]
    · cases hname
  · intro hlocation
    have hbelow : below? top (top ++ [name.toList]) = some [name.toList] := by
      rw [below?, if_pos ⟨List.isPrefixOf_iff_prefix.2 (List.prefix_append _ _), by simp⟩,
        List.drop_left]
    refine List.mem_filterMap.2 ⟨_, hlocation, ?_⟩
    rw [hbelow]
    exact congrArg some String.ofList_toList

/-- The same names stand in a directory, perhaps in another order. -/
theorem namesIn_cases (h : SameFiles files files') (path : String) :
    (∃ fault, files.namesIn path = .error fault ∧ files'.namesIn path = .error fault) ∨
      ∃ names names', names'.Perm names ∧
        files.namesIn path = .ok names ∧ files'.namesIn path = .ok names' := by
  have hfind' := h.find_eq path
  cases hfind : files.find path with
  | error fault =>
      rw [hfind] at hfind'
      exact .inl ⟨fault, by rw [namesIn, hfind]; rfl, by rw [namesIn, hfind']; rfl⟩
  | ok found =>
      obtain ⟨top, entry⟩ := found
      rw [hfind] at hfind'
      cases entry with
      | file content =>
          exact .inl ⟨_, by rw [namesIn, hfind]; rfl, by rw [namesIn, hfind']; rfl⟩
      | directory =>
          obtain ⟨names, hnames⟩ : ∃ names, files.namesIn path = .ok names := by
            rw [namesIn, hfind]
            exact ⟨_, rfl⟩
          obtain ⟨names', hnames'⟩ : ∃ names, files'.namesIn path = .ok names := by
            rw [namesIn, hfind']
            exact ⟨_, rfl⟩
          refine .inr ⟨names, names', ?_, hnames, hnames'⟩
          rw [List.perm_ext_iff_of_nodup (nodup_namesIn hnames') (nodup_namesIn hnames)]
          intro name
          rw [mem_of_namesIn hfind' hnames', mem_of_namesIn hfind hnames, h.entry?_eq]

/-- The inputs of a batch come in the order of their names, however they are listed. -/
theorem diagramsIn_eq (h : SameFiles files files') (input : String) :
    Converter.diagramsIn files' input = Converter.diagramsIn files input := by
  unfold Converter.diagramsIn
  rcases h.namesIn_cases input with
    ⟨fault, hfails, hfails'⟩ | ⟨names, names', hperm, hnames, hnames'⟩
  · rw [hfails, hfails']
    rfl
  · have hsorted : names'.mergeSort (fun a b => decide (a ≤ b)) =
        names.mergeSort (fun a b => decide (a ≤ b)) := by
      refine List.Perm.eq_of_pairwise (fun a b _ _ hab hba => ?_)
        (pairwise_mergeSort_names names') (pairwise_mergeSort_names names)
        (((List.mergeSort_perm names' _).trans hperm).trans (List.mergeSort_perm names _).symm)
      exact String.le_antisymm hab hba
    rw [hnames, hnames']
    simp only [Except.map, hsorted, h.isFile_eq]

end SameFiles

end FileSystem

/-! ## Runs -/

/-- The same result, the same files and the same notices. -/
structure SameRun {α : Type} (run run' : FileRun α) : Prop where
  result_eq : run'.result = run.result
  files : FileSystem.SameFiles run.files run'.files
  notices_eq : run'.notices = run.notices

theorem SameRun.of_sameFiles {α : Type} {files files' : FileSystem} {result : α}
    {notices : List Notice} (h : FileSystem.SameFiles files files') :
    SameRun ⟨result, files, notices⟩ ⟨result, files', notices⟩ := ⟨rfl, h, rfl⟩

open FileSystem

variable {files files' : FileSystem} (h : SameFiles files files')

include h

theorem sameRun_writeOutputs (converter : Converter) (conversion : Conversion)
    (input directory : String) :
    SameRun (converter.writeOutputs files conversion input directory)
      (converter.writeOutputs files' conversion input directory) := by
  unfold Converter.writeOutputs
  dsimp only
  rcases h.write_cases (Path.output input directory declarationExtension)
    (Utf8.encodeText conversion.text) with
    ⟨fault, hfirst, hfirst'⟩ | ⟨written, written', hwritten, hfirst, hfirst'⟩
  · rw [hfirst, hfirst']
    exact .of_sameFiles h
  · rw [hfirst, hfirst']
    dsimp only
    cases converter.options.writeModel with
    | false =>
        rw [if_neg Bool.false_ne_true, if_neg Bool.false_ne_true]
        exact .of_sameFiles hwritten
    | true =>
        rw [if_pos rfl, if_pos rfl]
        rcases hwritten.write_cases (Path.output input directory modelExtension)
          (Utf8.encodeText conversion.model.dump) with
          ⟨fault, hsecond, hsecond'⟩ | ⟨complete, complete', hcomplete, hsecond, hsecond'⟩
        · rw [hsecond, hsecond']
          exact .of_sameFiles (hwritten.remove _)
        · rw [hsecond, hsecond']
          exact .of_sameFiles hcomplete

theorem sameRun_convertFile (converter : Converter) (input directory : String) :
    SameRun (converter.convertFile files input directory)
      (converter.convertFile files' input directory) := by
  unfold Converter.convertFile
  rw [h.readText_eq]
  cases files.readText input with
  | error fault => exact .of_sameFiles h
  | ok document =>
      dsimp only
      cases (converter.convertText document).result with
      | error fault => exact .of_sameFiles h
      | ok conversion =>
          dsimp only
          have hmade := h.makeDirectories directory
          rcases hfirst : files.makeDirectories directory with ⟨outcome, made⟩
          rcases hsecond : files'.makeDirectories directory with ⟨outcome', made'⟩
          rw [hfirst, hsecond] at hmade
          have hsame : SameFiles made made' := hmade.2
          obtain rfl : outcome' = outcome := hmade.1
          cases outcome' with
          | error fault => exact .of_sameFiles hsame
          | ok done =>
              have hrun := sameRun_writeOutputs hsame converter conversion input directory
              dsimp only
              rw [hrun.result_eq, hrun.notices_eq]
              exact .of_sameFiles hrun.files

theorem sameRun_convertEach (converter : Converter) (directory : String) (inputs : List String) :
    SameRun (converter.convertEach files directory inputs)
      (converter.convertEach files' directory inputs) := by
  induction inputs generalizing files files' with
  | nil => exact .of_sameFiles h
  | cons first inputs ih =>
      have hfirst := sameRun_convertFile h converter first directory
      have hothers := ih hfirst.files
      unfold Converter.convertEach
      refine ⟨?_, hothers.files, ?_⟩
      · dsimp only
        rw [hfirst.result_eq, hothers.result_eq]
      · dsimp only
        rw [hfirst.result_eq, hfirst.notices_eq, hothers.notices_eq]

/-- A batch is the same however the directory is listed. -/
theorem sameRun_convertDirectory (converter : Converter) (input directory : String) :
    SameRun (converter.convertDirectory files input directory)
      (converter.convertDirectory files' input directory) := by
  unfold Converter.convertDirectory
  rw [h.diagramsIn_eq]
  cases Converter.diagramsIn files input with
  | error fault => exact .of_sameFiles h
  | ok inputs =>
      have hrun := sameRun_convertEach h converter directory inputs
      exact ⟨congrArg Converter.summarize hrun.result_eq, hrun.files, hrun.notices_eq⟩

end ClassDiagram
