import ClassDiagram.Proofs.Files.Outcome

/-!
# Inputs on their own

Each input of a batch is converted as it would be alone.  Earlier inputs have written outputs, but
no diagrams, and have made the output directory; they have not changed which directories there are
otherwise.  So the next one is read as at first and can write its outputs exactly if it could have
at first (`Ready.convertFile`), and the outputs of all inputs that are converted are there in the
end (`convertEach_of_made`).

If the output directory cannot be made, nothing is written at all, but the first input that gets
so far may leave some of the directories above it.  The inputs after it then fail again, if not
for the same reason (`exists_convertEach_of_blocked`).
-/

namespace ClassDiagram

open FileSystem

variable {converter : Converter} {files files' made : FileSystem}
  {input path directory output : String} {location : Location} {conversion : Conversion}
  {inputs done : List String} {result : Except FileFault String} {fault later : IoFault}

/-! ## What earlier inputs leave alone -/

theorem conversionOf_of_keeps (hkeeps : Keeps (OutputsAt inputs) files files')
    (hdiagram : isDiagram path = true) (hfile : files.isFile path = true) :
    converter.conversionOf files' path = converter.conversionOf files path := by
  unfold Converter.conversionOf
  rw [readText_of_keeps hkeeps hdiagram hfile]

/-- Whatever the result, only outputs are written. -/
theorem ConvertsFile.keeps (h : ConvertsFile converter files input directory result files') :
    Keeps (OutputsAt [input]) files files' := by
  refine ⟨h.working_eq, fun {location entry} hentry hkept => ?_⟩
  by_contra hne
  rw [← hentry] at hne
  rcases h.exists_of_ne hne with ⟨-, -, -, hnone, -⟩ | ⟨hfree, stem, extension, hstem,
    hextension, hlocate⟩
  · rw [hentry] at hnone
    cases hnone
  · have hout : Path.join directory (stem ++ "." ++ extension) =
        Path.output input directory extension := by
      rw [Path.output, hstem, Option.getD_some]
    have hknown := hextension.imp_right And.right
    rw [hout] at hlocate
    have hat : OutputsAt [input] location :=
      ⟨input, List.mem_singleton_self input, stem, extension, hstem, hknown,
        getLast?_of_locate_output hstem (isExtension_of_output hknown) hlocate⟩
    rcases hkept with rfl | hkept
    · exact hfree hentry
    · exact hkept hat

theorem keeps_convertEach (converter : Converter) (files : FileSystem) (directory : String)
    (inputs : List String) :
    Keeps (OutputsAt inputs) files (converter.convertEach files directory inputs).files := by
  induction inputs generalizing files with
  | nil => exact .refl _ _
  | cons first inputs ih =>
      have hfirst := convertsFile converter files first directory
      exact (hfirst.keeps.mono (outputsAt_mono (by simp))).trans
        ((ih _).mono (outputsAt_mono (List.subset_cons_self _ _)))

/-! ## When the output directory can be made -/

theorem leadsIn_of_makeDirectories (h : files.makeDirectories directory = (.ok (), made)) :
    made.LeadsIn directory := by
  unfold makeDirectories at h
  split at h
  · next hempty =>
      rw [hempty]
      exact ⟨made.working, rfl, made.working_directory⟩
  · obtain ⟨top, hlocate, htop⟩ := isDirectory_iff.1 (isDirectory_of_makeChain h)
    exact ⟨top, (locate_eq_ok_iff.1 hlocate).2, htop⟩

/-- Where the same directories are, the outputs for an input can be written or cannot. -/
theorem writeOutputs_result_eq (hsame : SameDirectories files files')
    (hdirectory : files.LeadsIn directory) {stem : String}
    (hstem : Path.fileStem? input = some stem) (conversion : Conversion) :
    (converter.writeOutputs files' conversion input directory).result =
      (converter.writeOutputs files conversion input directory).result := by
  have hlocate : ∀ {files files' : FileSystem} {extension : String},
      SameDirectories files files' → files.LeadsIn directory → Path.IsExtension extension →
      files'.locate (Path.output input directory extension) =
        files.locate (Path.output input directory extension) := by
    intro files files' extension hsame hdirectory hextension
    rw [Path.output_eq_join hstem]
    exact hsame.locate_join_eq hdirectory (Path.isName_outputName hstem hextension).2
  unfold Converter.writeOutputs
  dsimp only
  rcases write_cases (hlocate hsame hdirectory isExtension_declarationExtension)
    hsame.directory_iff (Utf8.encodeText conversion.text) with
    ⟨fault, hfirst, hfirst'⟩ | ⟨location, hparent, hnew, hparent', hnew', hfirst, hfirst'⟩
  · rw [hfirst, hfirst']
  · rw [hfirst, hfirst']
    dsimp only
    cases converter.options.writeModel with
    | false => rw [if_neg Bool.false_ne_true, if_neg Bool.false_ne_true]
    | true =>
        have hput := sameDirectories_of_write hfirst
        have hput' := sameDirectories_of_write hfirst'
        have hboth := (hput.symm.trans hsame).trans hput'
        rw [if_pos rfl, if_pos rfl]
        rcases write_cases (hlocate hboth (hput.leadsIn hdirectory) isExtension_modelExtension)
          hboth.directory_iff (Utf8.encodeText conversion.model.dump) with
          ⟨fault, hsecond, hsecond'⟩ | ⟨place, hwithin, hfree, hwithin', hfree', hsecond, hsecond'⟩
        · rw [hsecond, hsecond']
        · rw [hsecond, hsecond']

/-- Files that some inputs of a batch may have changed, where the output directory can be made, or
has been. -/
structure Ready (files made : FileSystem) (directory : String) (done : List String)
    (files' : FileSystem) : Prop where
  keeps : Keeps (OutputsAt done) files files'
  directory : ∃ made', files'.makeDirectories directory = (.ok (), made') ∧
    SameDirectories made made'

theorem ready_of_makeDirectories (hmade : files.makeDirectories directory = (.ok (), made)) :
    Ready files made directory [] files :=
  ⟨.refl _ _, made, hmade, .refl _⟩

/-- The next input has the result that it would have had at first. -/
theorem Ready.convertFile (converter : Converter)
    (h : Ready files made directory done files')
    (hmade : files.makeDirectories directory = (.ok (), made))
    (hfile : files.isFile path = true) (hdiagram : isDiagram path = true) :
    (converter.convertFile files' path directory).result =
        (converter.convertFile files path directory).result ∧
      Ready files made directory (path :: done)
        (converter.convertFile files' path directory).files := by
  have hrun := convertsFile converter files' path directory
  have hkeeps : Keeps (OutputsAt (path :: done)) files
      (converter.convertFile files' path directory).files :=
    (h.keeps.mono (outputsAt_mono (List.subset_cons_self _ _))).trans
      (hrun.keeps.mono (outputsAt_mono (by simp)))
  have hconversion : converter.conversionOf files' path = converter.conversionOf files path :=
    conversionOf_of_keeps h.keeps hdiagram hfile
  obtain ⟨made', hmade', hsame⟩ := h.directory
  cases hown : converter.conversionOf files path with
  | error fault =>
      obtain ⟨hresult, -⟩ := convertFile_of_refused directory hown
      obtain ⟨hresult', hfiles'⟩ := convertFile_of_refused directory (hconversion.trans hown)
      refine ⟨hresult'.trans hresult.symm, hkeeps, made', ?_, hsame⟩
      rw [hfiles']
      exact hmade'
  | ok conversion =>
      obtain ⟨hresult, -⟩ := convertFile_of_made hown hmade
      obtain ⟨hresult', hfiles'⟩ := convertFile_of_made (hconversion.trans hown) hmade'
      obtain ⟨stem, hstem⟩ := exists_stem_of_isDiagram hdiagram
      have hwritten := (writesOutputs converter made' conversion path directory).sameDirectories
      rw [← hfiles'] at hwritten
      refine ⟨?_, hkeeps, _, makeDirectories_again hmade' hwritten.keeps,
        hsame.trans hwritten⟩
      rw [hresult, hresult']
      exact writeOutputs_result_eq hsame (leadsIn_of_makeDirectories hmade) hstem _

/-- Every input has its own result, and those that are converted have their outputs. -/
theorem convertEach_of_made (hmade : files.makeDirectories directory = (.ok (), made))
    (hinputs : ∀ path ∈ inputs, files.isFile path = true ∧ isDiagram path = true)
    (hstems : (inputs.map Path.fileStem?).Nodup) (h : Ready files made directory done files') :
    (converter.convertEach files' directory inputs).result =
        inputs.map (fun path => (path, (converter.convertFile files path directory).result)) ∧
      ∀ path ∈ inputs, ∀ output, (converter.convertFile files path directory).result = .ok output →
        HoldsOutputs converter files (converter.convertEach files' directory inputs).files
          path directory := by
  induction inputs generalizing files' done with
  | nil => exact ⟨rfl, fun path hpath => absurd hpath List.not_mem_nil⟩
  | cons first inputs ih =>
      obtain ⟨⟨hfile, hdiagram⟩, hinputs⟩ := List.forall_mem_cons.1 hinputs
      rw [List.map_cons] at hstems
      obtain ⟨hfresh, hstems⟩ := List.nodup_cons.1 hstems
      obtain ⟨hresult, hready⟩ := h.convertFile converter hmade hfile hdiagram
      obtain ⟨hresults, hholds⟩ := ih hinputs hstems hready
      refine ⟨?_, List.forall_mem_cons.2 ⟨fun output hok => ?_, hholds⟩⟩
      · rw [Converter.convertEach, List.map_cons, hresult, hresults]
      · -- The outputs of the first input are written, and the others leave them alone.
        have hrun := convertsFile converter files' first directory
        rw [hresult, hok] at hrun
        obtain ⟨-, conversion, hconversion, hread, hmodel⟩ := hrun.holdsOutputs
        obtain ⟨stem, hstem⟩ := exists_stem_of_isDiagram hdiagram
        have hothers : ∀ other ∈ inputs, Path.fileStem? other ≠ Path.fileStem? first :=
          fun other hother hsame => hfresh (hsame ▸ List.mem_map_of_mem hother)
        have hkeeps := keeps_convertEach converter
          (converter.convertFile files' first directory).files directory inputs
        refine ⟨conversion, ?_, ?_, fun hwanted => ?_⟩
        · rw [← conversionOf_of_keeps h.keeps hdiagram hfile, hconversion]
        · exact read_output_of_keeps hstem isExtension_declarationExtension hothers hkeeps hread
        · exact read_output_of_keeps hstem isExtension_modelExtension hothers hkeeps
            (hmodel hwanted)

/-! ## When the output directory cannot be made -/

/-- What a later attempt to make a directory may report for an earlier one. -/
def FileFault.again : FileFault → FileFault
  | .io .alreadyExists => .io .notADirectory
  | fault => fault

/-- The result for an input if the output directory cannot be made. -/
def heldUp (converter : Converter) (files : FileSystem) (fault : IoFault) (input : String) :
    Except FileFault String :=
  match converter.conversionOf files input with
  | .error refused => .error refused
  | .ok _ => .error (.io fault)

theorem convertFile_result_of_blocked (input : String)
    (hmade : files.makeDirectories directory = (.error fault, made)) :
    (converter.convertFile files input directory).result =
      heldUp converter files fault input := by
  unfold heldUp
  cases hconversion : converter.conversionOf files input with
  | error refused => exact (convertFile_of_refused directory hconversion).1
  | ok conversion => exact (convertFile_of_blocked hconversion hmade).1

/-- A file that is refused is no text, or no diagram. -/
theorem again_of_refused {refused : FileFault} (hfile : files.isFile path = true)
    (h : converter.conversionOf files path = .error refused) : refused.again = refused := by
  obtain ⟨location, content, hfind⟩ := isFile_iff.1 hfile
  have hread : files.readText path = (Utf8.decodeText content).mapError fun _ => .notText := by
    rw [readText, read_eq_ok_iff.2 ⟨location, hfind⟩]
    rfl
  rw [Converter.conversionOf, hread] at h
  cases htext : Utf8.decodeText content with
  | error index =>
      rw [htext] at h
      obtain rfl := Except.error.inj h
      rfl
  | ok document =>
      rw [htext] at h
      change (converter.convertText document).result.mapError FileFault.diagram = _ at h
      cases hresult : (converter.convertText document).result with
      | error found =>
          rw [hresult] at h
          obtain rfl := Except.error.inj h
          rfl
      | ok found =>
          rw [hresult] at h
          cases h

theorem heldUp_again (hfile : files.isFile path = true) :
    heldUp converter files .notADirectory path =
      (heldUp converter files .alreadyExists path).mapError FileFault.again := by
  unfold heldUp
  cases hconversion : converter.conversionOf files path with
  | error refused => exact congrArg Except.error (again_of_refused hfile hconversion).symm
  | ok conversion => rfl

/-- Once the directories that can be made are there, no input changes anything. -/
theorem convertEach_of_blocked (hmade : made.makeDirectories directory = (.error later, made))
    (hkeeps : Keeps (fun _ => False) files made)
    (hinputs : ∀ path ∈ inputs, files.isFile path = true ∧ isDiagram path = true) :
    (converter.convertEach made directory inputs).result =
      inputs.map fun path => (path, heldUp converter files later path) := by
  induction inputs with
  | nil => rfl
  | cons first inputs ih =>
      obtain ⟨⟨hfile, hdiagram⟩, hinputs⟩ := List.forall_mem_cons.1 hinputs
      have hkept : Keeps (OutputsAt []) files made := hkeeps.mono fun _ => False.elim
      have hconversion : converter.conversionOf made first = converter.conversionOf files first :=
        conversionOf_of_keeps hkept hdiagram hfile
      have hfiles : (converter.convertFile made first directory).files = made := by
        cases hown : converter.conversionOf made first with
        | error refused => exact (convertFile_of_refused directory hown).2
        | ok conversion => exact (convertFile_of_blocked hown hmade).2
      rw [Converter.convertEach, List.map_cons, convertFile_result_of_blocked first hmade, hfiles,
        ih hinputs, heldUp, heldUp, hconversion]

/-- Up to the first input that finds that the output directory cannot be made, the results are as
they would be alone; those after it fail again. -/
theorem exists_convertEach_of_blocked (converter : Converter)
    (hmade : files.makeDirectories directory = (.error fault, made))
    (hagain : made.makeDirectories directory = (.error later, made))
    (hinputs : ∀ path ∈ inputs, files.isFile path = true ∧ isDiagram path = true) :
    ∃ front rest, inputs = front ++ rest ∧
      (converter.convertEach files directory inputs).result =
        front.map (fun path => (path, heldUp converter files fault path)) ++
          rest.map (fun path => (path, heldUp converter files later path)) ∧
      (rest ≠ [] → ∃ path ∈ front, heldUp converter files fault path = .error (.io fault)) := by
  induction inputs with
  | nil => exact ⟨[], [], rfl, rfl, fun hrest => absurd rfl hrest⟩
  | cons first inputs ih =>
      obtain ⟨-, hinputs⟩ := List.forall_mem_cons.1 hinputs
      rw [Converter.convertEach, convertFile_result_of_blocked first hmade]
      cases hown : converter.conversionOf files first with
      | error refused =>
          obtain ⟨front, rest, rfl, hresult, hfails⟩ := ih hinputs
          rw [(convertFile_of_refused directory hown).2, hresult]
          refine ⟨first :: front, rest, rfl, rfl, fun hrest => ?_⟩
          obtain ⟨path, hpath, hfault⟩ := hfails hrest
          exact ⟨path, List.mem_cons_of_mem _ hpath, hfault⟩
      | ok conversion =>
          have hkeeps := (makes_of_makeDirectories hmade).keeps
          rw [(convertFile_of_blocked hown hmade).2, convertEach_of_blocked hagain hkeeps hinputs]
          refine ⟨[first], inputs, rfl, rfl, fun _ => ⟨first, List.mem_singleton_self first, ?_⟩⟩
          rw [heldUp, hown]

/-! ## All inputs -/

/-- Inputs are converted as they would be alone, but for later attempts to make the output
directory. -/
theorem exists_convertEach (converter : Converter) (directory : String)
    (hinputs : ∀ path ∈ inputs, files.isFile path = true ∧ isDiagram path = true)
    (hstems : (inputs.map Path.fileStem?).Nodup) :
    ∃ front rest, inputs = front ++ rest ∧
      (converter.convertEach files directory inputs).result =
        front.map (fun path => (path, (converter.convertFile files path directory).result)) ++
          rest.map (fun path => (path,
            (converter.convertFile files path directory).result.mapError FileFault.again)) ∧
      (rest ≠ [] → (files.makeDirectories directory).1 = .error .alreadyExists ∧
        ∃ path ∈ front, (converter.convertFile files path directory).result =
          .error (.io .alreadyExists)) := by
  rcases hmade : files.makeDirectories directory with ⟨fault | _, made⟩
  · obtain ⟨later, hfails, hagain⟩ := makeDirectories_again_error hmade
    obtain ⟨front, rest, rfl, hresult, hrest⟩ :=
      exists_convertEach_of_blocked converter hmade hagain hinputs
    simp only [convertFile_result_of_blocked _ hmade]
    rcases hfails with rfl | ⟨rfl, rfl⟩
    · refine ⟨front ++ rest, [], (List.append_nil _).symm, ?_, fun hnil => absurd rfl hnil⟩
      rw [hresult, List.map_append, List.map_nil, List.append_nil]
    · refine ⟨front, rest, rfl, ?_, fun hnil => ⟨rfl, hrest hnil⟩⟩
      rw [hresult]
      congr 1
      refine List.map_congr_left fun path hpath => ?_
      rw [heldUp_again (hinputs path (List.mem_append_right front hpath)).1]
  · refine ⟨inputs, [], (List.append_nil _).symm, ?_, fun hnil => absurd rfl hnil⟩
    rw [List.map_nil, List.append_nil]
    exact (convertEach_of_made hmade hinputs hstems (ready_of_makeDirectories hmade)).1

end ClassDiagram
