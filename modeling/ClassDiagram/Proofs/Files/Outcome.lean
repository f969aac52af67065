import ClassDiagram.Proofs.Files.Alike
import ClassDiagram.Proofs.Files.Batch
import ClassDiagram.Proofs.Files.Directories

/-!
# What the conversion of a file leaves

Whether or not a file is converted, only its outputs differ afterwards, and the directories that
were missing (`ConvertsFile.exists_of_ne`).  An input that is refused changes nothing, and a
conversion that fails leaves no file that was not there before: of two outputs there are both or
none (`fileOutcome_convertFile`).
-/

namespace ClassDiagram

open FileSystem

variable {converter : Converter} {files files' made written : FileSystem}
  {path input directory output : String} {location : Location} {content : Bytes}
  {conversion : Conversion} {result : Except FileFault String}

/-! ## Writing -/

namespace FileSystem

/-- Where something differs after a file was written, the file was, and no directory. -/
theorem locate_of_write_ne (h : files.write path content = .ok written)
    (hdiffers : written.entry? location ≠ files.entry? location) :
    files.locate path = .ok location ∧ files.entry? location ≠ some .directory := by
  obtain ⟨place, hparent, hnew, hlocate, -, rfl⟩ := write_eq_ok_iff.1 h
  by_cases hplace : location = place
  · rw [hplace]
    exact ⟨hlocate, hnew⟩
  · rw [entry?_put, if_neg hplace] at hdiffers
    exact absurd rfl hdiffers

end FileSystem

/-! ## Outputs -/

namespace WritesOutputs

variable (h : WritesOutputs converter files conversion input directory result files')

include h

theorem sameDirectories : SameDirectories files files' := by
  cases h with
  | stopped _ => exact .refl _
  | undone hfirst _ _ => exact sameDirectories_remove_write hfirst
  | single hfirst _ => exact sameDirectories_of_write hfirst
  | pair hfirst _ hsecond =>
      exact (sameDirectories_of_write hfirst).trans (sameDirectories_of_write hsecond)

/-- Only outputs differ. -/
theorem locate_of_ne (hdiffers : files'.entry? location ≠ files.entry? location) :
    files.entry? location ≠ some .directory ∧
      ∃ extension, (extension = declarationExtension ∨
          converter.options.writeModel = true ∧ extension = modelExtension) ∧
        files'.locate (Path.output input directory extension) = .ok location := by
  have hkeeps := h.sameDirectories.keeps
  cases h with
  | stopped _ => exact absurd rfl hdiffers
  | undone hfirst _ _ =>
      obtain ⟨place, hlocate, hnew, -, hentries⟩ := entry?_remove_write hfirst
      rw [hentries] at hdiffers
      by_cases hplace : location = place
      · rw [hplace]
        exact ⟨hnew, declarationExtension, .inl rfl, hkeeps.locate hlocate⟩
      · rw [if_neg hplace] at hdiffers
        exact absurd rfl hdiffers
  | single hfirst _ =>
      obtain ⟨hlocate, hnew⟩ := locate_of_write_ne hfirst hdiffers
      exact ⟨hnew, declarationExtension, .inl rfl, hkeeps.locate hlocate⟩
  | @pair written _ hfirst hmodel hsecond =>
      by_cases hsame : files'.entry? location = written.entry? location
      · rw [hsame] at hdiffers
        obtain ⟨hlocate, hnew⟩ := locate_of_write_ne hfirst hdiffers
        exact ⟨hnew, declarationExtension, .inl rfl, hkeeps.locate hlocate⟩
      · obtain ⟨hlocate, hnew⟩ := locate_of_write_ne hsecond hsame
        have hbefore := (sameDirectories_of_write hfirst).directory_iff location
        exact ⟨mt hbefore.2 hnew, modelExtension, .inr ⟨hmodel, rfl⟩,
          (sameDirectories_of_write hsecond).keeps.locate hlocate⟩

/-- If it fails, there is no file that was not there before. -/
theorem file_of_error {fault : FileFault} (herror : result = .error fault)
    (hfile : files'.entry? location = some (.file content)) :
    files.entry? location = some (.file content) := by
  cases h with
  | stopped _ => exact hfile
  | undone hfirst _ _ =>
      obtain ⟨place, -, -, -, hentries⟩ := entry?_remove_write hfirst
      rw [hentries] at hfile
      split at hfile
      · cases hfile
      · exact hfile
  | single _ _ => cases herror
  | pair _ _ _ => cases herror

/-- If it succeeds, the outputs hold what was written. -/
theorem read_of_ok {stem : String} (hstem : Path.fileStem? input = some stem)
    (hok : result = .ok output) :
    output = Path.output input directory declarationExtension ∧
      files'.read output = .ok (Utf8.encodeText conversion.text) ∧
      (converter.options.writeModel = true →
        files'.read (Path.output input directory modelExtension) =
          .ok (Utf8.encodeText conversion.model.dump)) := by
  cases h with
  | stopped _ => cases hok
  | undone _ _ _ => cases hok
  | single hfirst hmodel =>
      obtain ⟨location, -, hfind⟩ := exists_keeps_of_write hfirst
      obtain rfl := Except.ok.inj hok
      refine ⟨rfl, read_eq_ok_iff.2 ⟨location, hfind⟩, fun hwanted => ?_⟩
      rw [hmodel] at hwanted
      cases hwanted
  | pair hfirst hmodel hsecond =>
      obtain ⟨location, -, hfind⟩ := exists_keeps_of_write hfirst
      obtain ⟨location', hkeeps', hfind'⟩ := exists_keeps_of_write hsecond
      obtain rfl := Except.ok.inj hok
      have hne := ne_of_locate_outputs hstem (find_eq_ok_iff.1 hfind).1 (find_eq_ok_iff.1 hfind').1
      exact ⟨rfl, read_eq_ok_iff.2 ⟨location, hkeeps'.find hfind (.inr hne)⟩,
        fun _ => read_eq_ok_iff.2 ⟨location', hfind'⟩⟩

end WritesOutputs

/-! ## One file -/

/-- What the document in a file is converted to. -/
def Converter.conversionOf (converter : Converter) (files : FileSystem) (input : String) :
    Except FileFault Conversion := do
  let document ← (files.readText input).mapError .io
  (converter.convertText document).result.mapError .diagram

theorem conversionOf_eq_ok_iff : converter.conversionOf files input = .ok conversion ↔
    ∃ document, files.readText input = .ok document ∧
      (converter.convertText document).result = .ok conversion := by
  unfold Converter.conversionOf
  rw [bind_eq_ok]
  refine exists_congr fun document => and_congr ?_ ?_
  · cases files.readText input <;> simp [Except.mapError]
  · cases (converter.convertText document).result <;> simp [Except.mapError]

/-- An input that is refused has no effect. -/
theorem convertFile_of_refused {fault : FileFault} (directory : String)
    (h : converter.conversionOf files input = .error fault) :
    (converter.convertFile files input directory).result = .error fault ∧
      (converter.convertFile files input directory).files = files := by
  unfold Converter.conversionOf at h
  unfold Converter.convertFile
  cases hdocument : files.readText input with
  | error found =>
      rw [hdocument] at h
      obtain rfl := Except.error.inj h
      exact ⟨rfl, rfl⟩
  | ok document =>
      rw [hdocument] at h
      dsimp only
      cases hresult : (converter.convertText document).result with
      | error found =>
          have hfault : Except.mapError FileFault.diagram (converter.convertText document).result =
              .error fault := h
          rw [hresult] at hfault
          obtain rfl := Except.error.inj hfault
          exact ⟨rfl, rfl⟩
      | ok found =>
          have hfault : Except.mapError FileFault.diagram (converter.convertText document).result =
              .error fault := h
          rw [hresult] at hfault
          cases hfault

theorem convertFile_of_blocked {fault : IoFault}
    (h : converter.conversionOf files input = .ok conversion)
    (hmade : files.makeDirectories directory = (.error fault, made)) :
    (converter.convertFile files input directory).result = .error (.io fault) ∧
      (converter.convertFile files input directory).files = made := by
  obtain ⟨document, hdocument, hresult⟩ := conversionOf_eq_ok_iff.1 h
  simp only [Converter.convertFile, hdocument, hresult, hmade, and_self]

theorem convertFile_of_made (h : converter.conversionOf files input = .ok conversion)
    (hmade : files.makeDirectories directory = (.ok (), made)) :
    (converter.convertFile files input directory).result =
        (converter.writeOutputs made conversion input directory).result ∧
      (converter.convertFile files input directory).files =
        (converter.writeOutputs made conversion input directory).files := by
  obtain ⟨document, hdocument, hresult⟩ := conversionOf_eq_ok_iff.1 h
  simp only [Converter.convertFile, hdocument, hresult, hmade, and_self]

/-- How a file is converted, and where it ends if it is not. -/
inductive ConvertsFile (converter : Converter) (files : FileSystem) (input directory : String) :
    Except FileFault String → FileSystem → Prop where
  /-- The input cannot be read or is no diagram. -/
  | refused {fault : FileFault} (hrefused : converter.conversionOf files input = .error fault) :
      ConvertsFile converter files input directory (.error fault) files
  /-- The output directory cannot be made. -/
  | blocked {conversion : Conversion} {fault : IoFault} {made : FileSystem}
      (hconversion : converter.conversionOf files input = .ok conversion)
      (hmade : files.makeDirectories directory = (.error fault, made)) :
      ConvertsFile converter files input directory (.error (.io fault)) made
  | written {conversion : Conversion} {made files' : FileSystem}
      {result : Except FileFault String}
      (hconversion : converter.conversionOf files input = .ok conversion)
      (hmade : files.makeDirectories directory = (.ok (), made))
      (hwrites : WritesOutputs converter made conversion input directory result files') :
      ConvertsFile converter files input directory result files'

theorem convertsFile (converter : Converter) (files : FileSystem) (input directory : String) :
    ConvertsFile converter files input directory
      (converter.convertFile files input directory).result
      (converter.convertFile files input directory).files := by
  cases hconversion : converter.conversionOf files input with
  | error fault =>
      obtain ⟨hresult, hfiles⟩ := convertFile_of_refused directory hconversion
      rw [hresult, hfiles]
      exact .refused hconversion
  | ok conversion =>
      rcases hmade : files.makeDirectories directory with ⟨fault | _, made⟩
      · obtain ⟨hresult, hfiles⟩ := convertFile_of_blocked hconversion hmade
        rw [hresult, hfiles]
        exact .blocked hconversion hmade
      · obtain ⟨hresult, hfiles⟩ := convertFile_of_made hconversion hmade
        rw [hresult, hfiles]
        exact .written hconversion hmade (writesOutputs _ _ _ _ _)

/-- A directory that was missing for the outputs is there now. -/
def MadeFor (directory : String) (files files' : FileSystem) (location : Location) : Prop :=
  ∃ path ∈ directory :: Path.parents directory, files'.locate path = .ok location ∧
    files.entry? location = none ∧ files'.entry? location = some .directory

/-- The place of an output for the input, and not of a directory. -/
def OutputFor (converter : Converter) (input directory : String) (files files' : FileSystem)
    (location : Location) : Prop :=
  files.entry? location ≠ some .directory ∧
    ∃ stem extension, Path.fileStem? input = some stem ∧
      (extension = declarationExtension ∨
        converter.options.writeModel = true ∧ extension = modelExtension) ∧
      files'.locate (Path.join directory (stem ++ "." ++ extension)) = .ok location

/-- What can be read from a file has a name, and so have its outputs. -/
theorem exists_stem_of_conversionOf (h : converter.conversionOf files input = .ok conversion) :
    ∃ stem, Path.fileStem? input = some stem ∧ ∀ directory extension,
      Path.output input directory extension = Path.join directory (stem ++ "." ++ extension) := by
  obtain ⟨document, hdocument, -⟩ := conversionOf_eq_ok_iff.1 h
  obtain ⟨content, hread, -⟩ := bind_eq_ok.1 hdocument
  obtain ⟨location, hfind⟩ := read_eq_ok_iff.1 hread
  obtain ⟨name, hname⟩ := exists_fileName hfind
  have hstem : Path.fileStem? input = some (String.ofList (Path.splitName name).1) := by
    rw [Path.fileStem?, hname, Option.map_some]
  refine ⟨_, hstem, fun directory extension => ?_⟩
  rw [Path.output, hstem, Option.getD_some]

namespace ConvertsFile

variable (h : ConvertsFile converter files input directory result files')

include h

/-- Only the missing directories and the outputs differ. -/
theorem exists_of_ne (hdiffers : files'.entry? location ≠ files.entry? location) :
    MadeFor directory files files' location ∨
      OutputFor converter input directory files files' location := by
  cases h with
  | refused _ => exact absurd rfl hdiffers
  | blocked _ hmade => exact .inl ((makes_of_makeDirectories hmade).exists_of_ne hdiffers)
  | @written _ made _ _ hconversion hmade hwrites =>
      have hmakes := makes_of_makeDirectories hmade
      by_cases hsame : files'.entry? location = made.entry? location
      · rw [hsame] at hdiffers
        obtain ⟨path, hpath, hlocate, hnone, hdirectory⟩ := hmakes.exists_of_ne hdiffers
        exact .inl ⟨path, hpath, hwrites.sameDirectories.keeps.locate hlocate, hnone,
          hsame.trans hdirectory⟩
      · obtain ⟨hnew, extension, hextension, hlocate⟩ := hwrites.locate_of_ne hsame
        obtain ⟨stem, hstem, houtput⟩ := exists_stem_of_conversionOf hconversion
        refine .inr ⟨fun hentry => hnew (hmakes.keeps.stays hentry (.inl rfl)), stem, extension,
          hstem, hextension, ?_⟩
        rw [← houtput]
        exact hlocate

theorem working_eq : files'.working = files.working := by
  cases h with
  | refused _ => rfl
  | blocked _ hmade => exact (makes_of_makeDirectories hmade).keeps.working
  | written _ hmade hwrites =>
      have hmakes := makes_of_makeDirectories hmade
      exact hwrites.sameDirectories.working_eq.trans hmakes.keeps.working

/-- A conversion that fails leaves no file that was not there before. -/
theorem file_of_error {fault : FileFault} (herror : result = .error fault)
    (hfile : files'.entry? location = some (.file content)) :
    files.entry? location = some (.file content) := by
  -- No directory that was made is a file.
  have hbefore : ∀ {made : FileSystem}, Makes (directory :: Path.parents directory) files made →
      made.entry? location = some (.file content) →
        files.entry? location = some (.file content) := by
    intro made hmakes hmade
    by_contra hdiffers
    obtain ⟨-, -, -, -, hdirectory⟩ := hmakes.exists_of_ne
      fun hsame => hdiffers (hsame.symm.trans hmade)
    rw [hmade] at hdirectory
    cases hdirectory
  cases h with
  | refused _ => exact hfile
  | blocked _ hmade => exact hbefore (makes_of_makeDirectories hmade) hfile
  | written _ hmade hwrites =>
      have hmakes := makes_of_makeDirectories hmade
      exact hbefore hmakes (hwrites.file_of_error herror hfile)

end ConvertsFile

/-- The outputs for an input hold what it is converted to. -/
def HoldsOutputs (converter : Converter) (files files' : FileSystem) (input directory : String) :
    Prop :=
  ∃ conversion, converter.conversionOf files input = .ok conversion ∧
    files'.read (Path.output input directory declarationExtension) =
      .ok (Utf8.encodeText conversion.text) ∧
    (converter.options.writeModel = true →
      files'.read (Path.output input directory modelExtension) =
        .ok (Utf8.encodeText conversion.model.dump))

theorem ConvertsFile.holdsOutputs
    (h : ConvertsFile converter files input directory (.ok output) files') :
    output = Path.output input directory declarationExtension ∧
      HoldsOutputs converter files files' input directory := by
  cases h with
  | @written conversion _ _ _ hconversion hmade hwrites =>
      obtain ⟨stem, hstem, -⟩ := exists_stem_of_conversionOf hconversion
      obtain ⟨rfl, hread, hmodel⟩ := hwrites.read_of_ok hstem rfl
      exact ⟨rfl, conversion, hconversion, hread, hmodel⟩

/-- What a run on a file leaves. -/
structure FileOutcome (converter : Converter) (files : FileSystem) (input directory : String)
    (run : FileRun (Except FileFault String)) : Prop where
  working_eq : run.files.working = files.working
  /-- Whatever the result, nothing differs but missing directories and the outputs. -/
  differs : ∀ {location : Location}, run.files.entry? location ≠ files.entry? location →
    MadeFor directory files run.files location ∨
      OutputFor converter input directory files run.files location
  /-- If the input cannot be read or is no diagram, nothing differs. -/
  refused : ∀ {fault : FileFault}, converter.conversionOf files input = .error fault →
    run.result = .error fault ∧ run.files = files
  /-- If it fails, every file that is there was there before. -/
  failed : ∀ {fault : FileFault} {location : Location} {content : Bytes},
    run.result = .error fault → run.files.entry? location = some (.file content) →
      files.entry? location = some (.file content)
  /-- If it succeeds, the outputs hold what the input is converted to. -/
  succeeded : ∀ {output : String}, run.result = .ok output → ∃ conversion stem,
    converter.conversionOf files input = .ok conversion ∧ Path.fileStem? input = some stem ∧
      output = Path.join directory (stem ++ "." ++ declarationExtension) ∧
      run.files.read output = .ok (Utf8.encodeText conversion.text) ∧
      (converter.options.writeModel = true →
        run.files.read (Path.join directory (stem ++ "." ++ modelExtension)) =
          .ok (Utf8.encodeText conversion.model.dump))

/-- Whatever becomes of it, the conversion of a file has its outputs and nothing else, and of the
outputs all or none. -/
theorem fileOutcome_convertFile (converter : Converter) (files : FileSystem)
    (input directory : String) :
    FileOutcome converter files input directory
      (converter.convertFile files input directory) := by
  have hrun := convertsFile converter files input directory
  refine ⟨hrun.working_eq, hrun.exists_of_ne, convertFile_of_refused directory,
    hrun.file_of_error, fun {output} hok => ?_⟩
  rw [hok] at hrun
  obtain ⟨rfl, conversion, hconversion, hread, hmodel⟩ := hrun.holdsOutputs
  obtain ⟨stem, hstem, houtput⟩ := exists_stem_of_conversionOf hconversion
  refine ⟨conversion, stem, hconversion, hstem, houtput _ _, hread, ?_⟩
  rw [← houtput]
  exact hmodel

/-- A diagram, and a directory where its model would be written. -/
def modelInTheWay : FileSystem :=
  ((twoDiagrams "a.uml" "b.XML").makeDirectories "out/a.json").2

/-- The declarations are removed again. -/
theorem fileOutcome_convertFile_modelInTheWay :
    let converter : Converter := ⟨.sql, { Options.standard with writeModel := true }⟩
    let run := converter.convertFile modelInTheWay "in/a.uml" "out"
    run.result = .error (.io .isADirectory) ∧
      FileOutcome converter modelInTheWay "in/a.uml" "out" run :=
  ⟨by decide +kernel, fileOutcome_convertFile _ modelInTheWay "in/a.uml" "out"⟩

end ClassDiagram
