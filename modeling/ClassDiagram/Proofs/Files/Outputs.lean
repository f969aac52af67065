import ClassDiagram.Proofs.Files.Framing

/-!
# What a batch writes

A batch converts its inputs one after the other.  An input that is converted has its outputs
under its own stem and leaves everything else alone (`convertFile_eq_ok`), so that a later input
takes the output of an earlier one only if both have the same stem (`convertEach_eq_ok`).  No
output is a diagram: the inputs are read as they were at first.
-/

namespace ClassDiagram

open FileSystem

/-! ## Where outputs stand -/

/-- An output for one of the inputs can stand there. -/
def OutputsAt (inputs : List String) (location : Location) : Prop :=
  ∃ input ∈ inputs, ∃ stem extension, Path.fileStem? input = some stem ∧
    (extension = declarationExtension ∨ extension = modelExtension) ∧
    location.getLast? = some (Path.outputName stem extension)

theorem isExtension_of_output {extension : String}
    (h : extension = declarationExtension ∨ extension = modelExtension) :
    Path.IsExtension extension := by
  rcases h with rfl | rfl
  · exact isExtension_declarationExtension
  · exact isExtension_modelExtension

theorem outputsAt_mono {inputs inputs' : List String} (h : inputs ⊆ inputs') (location : Location) :
    OutputsAt inputs location → OutputsAt inputs' location := by
  rintro ⟨input, hinput, hat⟩
  exact ⟨input, h hinput, hat⟩

variable {converter : Converter} {files files' : FileSystem} {input directory : String}
  {location : Location}

/-- An output stands under the name that its stem and its extension make. -/
theorem getLast?_of_locate_output {stem extension : String}
    (hstem : Path.fileStem? input = some stem) (hextension : Path.IsExtension extension)
    (h : files.locate (Path.output input directory extension) = .ok location) :
    location.getLast? = some (Path.outputName stem extension) :=
  getLast?_of_locate (Path.fileName?_output hstem hextension directory) h

/-- The two outputs for an input differ in their extensions. -/
theorem ne_of_locate_outputs {stem : String} {location' : Location}
    (hstem : Path.fileStem? input = some stem)
    (h : files.locate (Path.output input directory declarationExtension) = .ok location)
    (h' : files'.locate (Path.output input directory modelExtension) = .ok location') :
    location ≠ location' := by
  rintro rfl
  have hlast := getLast?_of_locate_output hstem isExtension_declarationExtension h
  have hlast' := getLast?_of_locate_output hstem isExtension_modelExtension h'
  exact absurd (Path.outputName_inj hstem isExtension_declarationExtension hstem
    isExtension_modelExtension (Option.some.inj (hlast.symm.trans hlast'))).2 (by decide)

/-- An output does not stand where inputs of other stems have outputs. -/
theorem not_outputsAt_of_stems {inputs : List String} {stem extension : String}
    (hstem : Path.fileStem? input = some stem) (hextension : Path.IsExtension extension)
    (hothers : ∀ other ∈ inputs, Path.fileStem? other ≠ Path.fileStem? input)
    (h : location.getLast? = some (Path.outputName stem extension)) :
    ¬OutputsAt inputs location := by
  rintro ⟨other, hother, stem', extension', hstem', hextension', hlast⟩
  have hsame : stem = stem' :=
    (Path.outputName_inj hstem hextension hstem' (isExtension_of_output hextension')
      (Option.some.inj (h.symm.trans hlast))).1
  exact hothers other hother (by rw [hstem', hstem, hsame])

/-- Outputs of other stems leave an output alone. -/
theorem read_output_of_keeps {inputs : List String} {stem extension : String} {content : Bytes}
    (hstem : Path.fileStem? input = some stem) (hextension : Path.IsExtension extension)
    (hothers : ∀ other ∈ inputs, Path.fileStem? other ≠ Path.fileStem? input)
    (hkeeps : Keeps (OutputsAt inputs) files files')
    (hread : files.read (Path.output input directory extension) = .ok content) :
    files'.read (Path.output input directory extension) = .ok content := by
  obtain ⟨location, hfind⟩ := read_eq_ok_iff.1 hread
  have hlast := getLast?_of_locate_output hstem hextension (find_eq_ok_iff.1 hfind).1
  have hout := not_outputsAt_of_stems hstem hextension hothers hlast
  exact read_eq_ok_iff.2 ⟨location, hkeeps.find hfind (.inr hout)⟩

/-- Diagrams do not stand where outputs do. -/
theorem not_outputsAt_of_isDiagram {path : String} {inputs : List String}
    (hdiagram : isDiagram path = true) (h : files.locate path = .ok location) :
    ¬OutputsAt inputs location := by
  obtain ⟨name, extension, hname, hsplit, hknown⟩ := exists_name_of_isDiagram hdiagram
  rintro ⟨input, -, stem, extension', hstem, hextension', hlast⟩
  rw [getLast?_of_locate hname h] at hlast
  obtain rfl := Option.some.inj hlast
  rw [Path.splitName_outputName hstem (isExtension_of_output hextension')] at hsplit
  obtain rfl := Option.some.inj hsplit
  rw [String.ofList_toList] at hknown
  rcases hextension' with rfl | rfl
  · exact absurd hknown (by decide)
  · exact absurd hknown (by decide)

/-! ## Diagrams stay -/

theorem find_of_keeps {path : String} {inputs : List String} {content : Bytes}
    (hkeeps : Keeps (OutputsAt inputs) files files') (hdiagram : isDiagram path = true)
    (hfind : files.find path = .ok (location, .file content)) :
    files'.find path = .ok (location, .file content) :=
  hkeeps.find hfind (.inr (not_outputsAt_of_isDiagram hdiagram (find_eq_ok_iff.1 hfind).1))

theorem isFile_of_keeps {path : String} {inputs : List String}
    (hkeeps : Keeps (OutputsAt inputs) files files') (hdiagram : isDiagram path = true)
    (hfile : files.isFile path = true) : files'.isFile path = true := by
  obtain ⟨location, content, hfind⟩ := isFile_iff.1 hfile
  exact isFile_iff.2 ⟨location, content, find_of_keeps hkeeps hdiagram hfind⟩

/-- A diagram is read as it was. -/
theorem readText_of_keeps {path : String} {inputs : List String}
    (hkeeps : Keeps (OutputsAt inputs) files files') (hdiagram : isDiagram path = true)
    (hfile : files.isFile path = true) : files'.readText path = files.readText path := by
  obtain ⟨location, content, hfind⟩ := isFile_iff.1 hfile
  have hread : files.read path = .ok content := read_eq_ok_iff.2 ⟨location, hfind⟩
  have hread' : files'.read path = .ok content :=
    read_eq_ok_iff.2 ⟨location, find_of_keeps hkeeps hdiagram hfind⟩
  rw [readText, readText, hread, hread']

/-! ## One input -/

/-- The declarations of an input hold the text of the document in it. -/
def HoldsConversion (converter : Converter) (files files' : FileSystem)
    (input directory : String) : Prop :=
  ∃ document conversion, files.readText input = .ok document ∧
    (converter.convertText document).result = .ok conversion ∧
    files'.read (Path.output input directory declarationExtension) =
      .ok (Utf8.encodeText conversion.text)

/-- Later outputs of other stems leave the declarations of an input alone. -/
theorem holdsConversion_of_keeps {files'' : FileSystem} {inputs : List String}
    (hdiagram : isDiagram input = true)
    (hothers : ∀ other ∈ inputs, Path.fileStem? other ≠ Path.fileStem? input)
    (hkeeps : Keeps (OutputsAt inputs) files' files'')
    (h : HoldsConversion converter files files' input directory) :
    HoldsConversion converter files files'' input directory := by
  obtain ⟨document, conversion, hdocument, hconversion, hread⟩ := h
  obtain ⟨stem, hstem⟩ := exists_stem_of_isDiagram hdiagram
  exact ⟨document, conversion, hdocument, hconversion,
    read_output_of_keeps hstem isExtension_declarationExtension hothers hkeeps hread⟩

/-- How the outputs of a conversion are written, and what is left if one of them cannot be. -/
inductive WritesOutputs (converter : Converter) (files : FileSystem) (conversion : Conversion)
    (input directory : String) : Except FileFault String → FileSystem → Prop where
  /-- The declarations cannot be written. -/
  | stopped {fault : IoFault}
      (hfirst : files.write (Path.output input directory declarationExtension)
        (Utf8.encodeText conversion.text) = .error fault) :
      WritesOutputs converter files conversion input directory (.error (.io fault)) files
  /-- The model cannot be written, and the declarations are removed. -/
  | undone {written : FileSystem} {fault : IoFault}
      (hfirst : files.write (Path.output input directory declarationExtension)
        (Utf8.encodeText conversion.text) = .ok written)
      (hmodel : converter.options.writeModel = true)
      (hsecond : written.write (Path.output input directory modelExtension)
        (Utf8.encodeText conversion.model.dump) = .error fault) :
      WritesOutputs converter files conversion input directory (.error (.io fault))
        (written.remove (Path.output input directory declarationExtension))
  /-- The declarations are written, and no model is wanted. -/
  | single {written : FileSystem}
      (hfirst : files.write (Path.output input directory declarationExtension)
        (Utf8.encodeText conversion.text) = .ok written)
      (hmodel : converter.options.writeModel = false) :
      WritesOutputs converter files conversion input directory
        (.ok (Path.output input directory declarationExtension)) written
  /-- Both are written. -/
  | pair {written complete : FileSystem}
      (hfirst : files.write (Path.output input directory declarationExtension)
        (Utf8.encodeText conversion.text) = .ok written)
      (hmodel : converter.options.writeModel = true)
      (hsecond : written.write (Path.output input directory modelExtension)
        (Utf8.encodeText conversion.model.dump) = .ok complete) :
      WritesOutputs converter files conversion input directory
        (.ok (Path.output input directory declarationExtension)) complete

theorem writesOutputs (converter : Converter) (files : FileSystem) (conversion : Conversion)
    (input directory : String) :
    WritesOutputs converter files conversion input directory
      (converter.writeOutputs files conversion input directory).result
      (converter.writeOutputs files conversion input directory).files := by
  unfold Converter.writeOutputs
  dsimp only
  cases hfirst : files.write (Path.output input directory declarationExtension)
      (Utf8.encodeText conversion.text) with
  | error fault => exact .stopped hfirst
  | ok written =>
      dsimp only
      cases hmodel : converter.options.writeModel with
      | false => exact .single hfirst hmodel
      | true =>
          rw [if_pos rfl]
          cases hsecond : written.write (Path.output input directory modelExtension)
              (Utf8.encodeText conversion.model.dump) with
          | error fault =>
              dsimp only
              exact .undone hfirst hmodel hsecond
          | ok complete =>
              dsimp only
              exact .pair hfirst hmodel hsecond

/-- Outputs that are written are one file, or two. -/
theorem exists_write_of_writeOutputs {conversion : Conversion} {output : String}
    (h : (converter.writeOutputs files conversion input directory).result = .ok output) :
    output = Path.output input directory declarationExtension ∧
      ∃ written, files.write output (Utf8.encodeText conversion.text) = .ok written ∧
        ((converter.writeOutputs files conversion input directory).files = written ∨
          written.write (Path.output input directory modelExtension)
              (Utf8.encodeText conversion.model.dump) =
            .ok (converter.writeOutputs files conversion input directory).files) := by
  have hrun := writesOutputs converter files conversion input directory
  rw [h] at hrun
  cases hrun with
  | single hfirst hmodel => exact ⟨rfl, _, hfirst, .inl rfl⟩
  | pair hfirst hmodel hsecond => exact ⟨rfl, _, hfirst, .inr hsecond⟩

/-- Outputs that are written hold what was written, and nothing else is written. -/
theorem writeOutputs_eq_ok {conversion : Conversion} {stem output : String}
    (hstem : Path.fileStem? input = some stem)
    (h : (converter.writeOutputs files conversion input directory).result = .ok output) :
    Keeps (OutputsAt [input]) files
        (converter.writeOutputs files conversion input directory).files ∧
      (converter.writeOutputs files conversion input directory).files.read output =
        .ok (Utf8.encodeText conversion.text) := by
  have hat : ∀ {extension : String} {location : Location},
      (extension = declarationExtension ∨ extension = modelExtension) →
      location.getLast? = some (Path.outputName stem extension) →
      ∀ other, other = location → OutputsAt [input] other := by
    rintro extension location hextension hlast other rfl
    exact ⟨input, List.mem_singleton_self input, stem, extension, hstem, hextension, hlast⟩
  obtain ⟨rfl, written, hwritten, hmodel⟩ := exists_write_of_writeOutputs h
  obtain ⟨location, hkeeps, hfind⟩ := exists_keeps_of_write hwritten
  have hlast := getLast?_of_locate_output hstem isExtension_declarationExtension
    (find_eq_ok_iff.1 hfind).1
  have hkeeps := hkeeps.mono (hat (.inl rfl) hlast)
  rcases hmodel with rfl | hcomplete
  · exact ⟨hkeeps, read_eq_ok_iff.2 ⟨location, hfind⟩⟩
  · obtain ⟨location', hkeeps', hfind'⟩ := exists_keeps_of_write hcomplete
    have hlast' := getLast?_of_locate_output hstem isExtension_modelExtension
      (find_eq_ok_iff.1 hfind').1
    have hne := ne_of_locate_outputs hstem (find_eq_ok_iff.1 hfind).1 (find_eq_ok_iff.1 hfind').1
    exact ⟨hkeeps.trans (hkeeps'.mono (hat (.inr rfl) hlast')),
      read_eq_ok_iff.2 ⟨location, hkeeps'.find hfind (.inr hne)⟩⟩

/-- An input that is converted has been read, and its outputs are written after the directories. -/
theorem exists_of_convertFile {output : String}
    (h : (converter.convertFile files input directory).result = .ok output) :
    ∃ document conversion made, files.readText input = .ok document ∧
      (converter.convertText document).result = .ok conversion ∧
      files.makeDirectories directory = (.ok (), made) ∧
      (converter.writeOutputs made conversion input directory).result = .ok output ∧
      (converter.convertFile files input directory).files =
        (converter.writeOutputs made conversion input directory).files := by
  unfold Converter.convertFile at h ⊢
  cases hdocument : files.readText input with
  | error fault =>
      rw [hdocument] at h
      cases h
  | ok document =>
      rw [hdocument] at h
      dsimp only at h ⊢
      cases hconversion : (converter.convertText document).result with
      | error fault =>
          rw [hconversion] at h
          cases h
      | ok conversion =>
          rw [hconversion] at h
          dsimp only at h ⊢
          cases hmade : files.makeDirectories directory with
          | mk outcome made =>
              rw [hmade] at h
              cases outcome with
              | error fault => cases h
              | ok done =>
                  dsimp only at h ⊢
                  exact ⟨document, conversion, made, rfl, hconversion, rfl, h, rfl⟩

/-- An input that is converted has its outputs written, and nothing else is written but missing
directories. -/
theorem convertFile_eq_ok {output : String} (hdiagram : isDiagram input = true)
    (h : (converter.convertFile files input directory).result = .ok output) :
    output = Path.output input directory declarationExtension ∧
      Keeps (OutputsAt [input]) files (converter.convertFile files input directory).files ∧
      HoldsConversion converter files (converter.convertFile files input directory).files
        input directory := by
  obtain ⟨stem, hstem⟩ := exists_stem_of_isDiagram hdiagram
  obtain ⟨document, conversion, made, hdocument, hconversion, hmade, hwrite, hfiles⟩ :=
    exists_of_convertFile h
  have hdirectories := (makes_of_makeDirectories hmade).keeps
  obtain ⟨hkeeps, hread⟩ := writeOutputs_eq_ok hstem hwrite
  obtain ⟨rfl, -⟩ := exists_write_of_writeOutputs hwrite
  rw [hfiles]
  exact ⟨rfl, (hdirectories.mono fun _ => False.elim).trans hkeeps,
    document, conversion, hdocument, hconversion, hread⟩

/-! ## All inputs -/

/-- The fault of an input that failed. -/
def failure? (entry : String × Except FileFault String) : Option (String × FileFault) :=
  match entry.2 with
  | .ok _ => none
  | .error fault => some (entry.1, fault)

theorem failure?_eq_none_iff {entry : String × Except FileFault String} :
    failure? entry = none ↔ ∃ output, entry.2 = .ok output := by
  unfold failure?
  cases entry.2 <;> simp

theorem summarize_eq (results : List (String × Except FileFault String)) :
    Converter.summarize results =
      if results.filterMap failure? = [] then .ok (results.filterMap fun entry => entry.2.toOption)
      else .error (.failures (results.filterMap failure?)) := rfl

theorem map_ok_filterMap_toOption {results : List (String × Except FileFault String)}
    (h : ∀ entry ∈ results, ∃ output, entry.2 = .ok output) :
    (results.filterMap fun entry => entry.2.toOption).map Except.ok = results.map Prod.snd := by
  induction results with
  | nil => rfl
  | cons entry results ih =>
      obtain ⟨⟨output, houtput⟩, hresults⟩ := List.forall_mem_cons.1 h
      rw [List.filterMap_cons, houtput, List.map_cons, houtput, ← ih hresults]
      rfl

/-- A batch succeeds exactly if every input does, and then gives their outputs in order. -/
theorem summarize_eq_ok_iff {results : List (String × Except FileFault String)}
    {written : List String} :
    Converter.summarize results = .ok written ↔ results.map Prod.snd = written.map .ok := by
  have hnone : results.filterMap failure? = [] ↔
      ∀ entry ∈ results, ∃ output, entry.2 = .ok output := by
    simp only [List.filterMap_eq_nil_iff, failure?_eq_none_iff]
  rw [summarize_eq]
  split
  · next hfailed =>
      rw [← map_ok_filterMap_toOption (hnone.1 hfailed), Except.ok.injEq,
        List.map_inj_right fun _ _ => Except.ok.inj]
  · next hfailed =>
      have hall := mt hnone.2 hfailed
      refine iff_of_false nofun fun hmap => hall fun entry hentry => ?_
      have hmem : entry.2 ∈ written.map Except.ok := hmap ▸ List.mem_map_of_mem hentry
      obtain ⟨output, -, houtput⟩ := List.mem_map.1 hmem
      exact ⟨output, houtput.symm⟩

/-- Inputs that are all converted have their outputs, each of them unless a later input has the
same stem; nothing else is written but missing directories. -/
theorem convertEach_eq_ok {inputs written : List String}
    (hinputs : ∀ path ∈ inputs, files.isFile path = true ∧ isDiagram path = true)
    (h : (converter.convertEach files directory inputs).result.map Prod.snd = written.map .ok) :
    written = inputs.map (fun path => Path.output path directory declarationExtension) ∧
      Keeps (OutputsAt inputs) files (converter.convertEach files directory inputs).files ∧
      ∀ front path rest, inputs = front ++ path :: rest →
        (∀ other ∈ rest, Path.fileStem? other ≠ Path.fileStem? path) →
        HoldsConversion converter files (converter.convertEach files directory inputs).files
          path directory := by
  induction inputs generalizing files written with
  | nil =>
      obtain rfl := List.map_eq_nil_iff.1 h.symm
      refine ⟨rfl, .refl _ _, fun front path rest hsplit => ?_⟩
      exact absurd hsplit (by simp)
  | cons first inputs ih =>
      obtain ⟨⟨hfile, hdiagram⟩, hinputs⟩ := List.forall_mem_cons.1 hinputs
      rw [Converter.convertEach, List.map_cons] at h
      cases written with
      | nil => cases h
      | cons output written =>
          obtain ⟨hfirst, hrest⟩ := List.cons.inj h
          obtain ⟨rfl, hkeeps, hholds⟩ := convertFile_eq_ok hdiagram hfirst
          -- The first input has changed no diagram.
          have hinputs' : ∀ path ∈ inputs,
              (converter.convertFile files first directory).files.isFile path = true ∧
                isDiagram path = true :=
            fun path hpath =>
              ⟨isFile_of_keeps hkeeps (hinputs path hpath).2 (hinputs path hpath).1,
                (hinputs path hpath).2⟩
          obtain ⟨rfl, hkeeps', hholds'⟩ := ih hinputs' hrest
          refine ⟨rfl, ?_, fun front path rest hsplit hothers => ?_⟩
          · exact (hkeeps.mono (outputsAt_mono (by simp))).trans
              (hkeeps'.mono (outputsAt_mono (List.subset_cons_self _ _)))
          · cases front with
            | nil =>
                obtain ⟨rfl, rfl⟩ := List.cons.inj hsplit
                exact holdsConversion_of_keeps hdiagram hothers hkeeps' hholds
            | cons other front =>
                obtain ⟨rfl, rfl⟩ := List.cons.inj hsplit
                have hpath := hinputs path (by simp)
                obtain ⟨document, conversion, hdocument, hconversion⟩ :=
                  hholds' front path rest rfl hothers
                rw [readText_of_keeps hkeeps hpath.2 hpath.1] at hdocument
                exact ⟨document, conversion, hdocument, hconversion⟩

end ClassDiagram
