import ClassDiagram.Proofs.Files.Isolation
import ClassDiagram.Proofs.Files.Listing

/-!
# The report of a batch

A batch over diagrams of distinct stems does for each of them what its conversion alone would do,
and reports all failures at once, in the order of the names (`batchReport_convertDirectory`).

One failure can be reported otherwise than it would be alone.  If a file is in the way of the output
directory, the first input that gets so far finds it there; for later inputs it can be on the way
(`file_reported_on_the_way`).
-/

namespace ClassDiagram

open FileSystem

variable {converter : Converter} {files : FileSystem} {input directory : String}
  {inputs : List String}

/-- The inputs that fail alone, with their faults. -/
def ownFailures (converter : Converter) (files : FileSystem) (directory : String)
    (inputs : List String) : List (String × FileFault) :=
  inputs.filterMap fun path => failure? (path, (converter.convertFile files path directory).result)

/-- The fault that a later input may have. -/
def blockedAgain (entry : String × FileFault) : String × FileFault :=
  (entry.1, entry.2.again)

theorem filterMap_failure?_again (inputs : List String)
    (result : String → Except FileFault String) :
    (inputs.map fun path => (path, (result path).mapError FileFault.again)).filterMap failure? =
      (inputs.filterMap fun path => failure? (path, result path)).map blockedAgain := by
  rw [List.filterMap_map, List.map_filterMap]
  refine List.filterMap_congr fun path _ => ?_
  simp only [Function.comp_apply, failure?]
  cases result path with
  | ok output => rfl
  | error fault => rfl

/-- Of each input that failed there is a line. -/
theorem detail_failures (listed : List (String × FileFault)) :
    (BatchFault.failures listed).detail =
      "Failed to convert " ++ toString listed.length ++ " file(s):\n  " ++
        "\n  ".intercalate (listed.map fun entry => entry.1 ++ ": " ++ entry.2.message) := rfl

/-- The inputs are the diagrams in the directory, in the order of their names. -/
def InputsInOrder (files : FileSystem) (input : String) (inputs : List String) : Prop :=
  ∃ listed names : List String, files.namesIn input = .ok listed ∧ names.Perm listed ∧
    names.Pairwise (· ≤ ·) ∧ inputs = (names.map (Path.join input)).filter fun path =>
      files.isFile path && isDiagram path

theorem inputsInOrder_of_diagramsIn (h : Converter.diagramsIn files input = .ok inputs) :
    InputsInOrder files input inputs := by
  obtain ⟨listed, hlisted, rfl⟩ := map_eq_ok.1 h
  exact ⟨listed, _, hlisted, List.mergeSort_perm listed _, pairwise_mergeSort_names listed, rfl⟩

/-- What a batch does and reports. -/
structure BatchReport (converter : Converter) (files : FileSystem) (input directory : String)
    (inputs : List String) (run : FileRun (Except BatchFault (List String))) : Prop where
  inOrder : InputsInOrder files input inputs
  /-- It succeeds exactly if each input does alone, and gives their outputs in order. -/
  ok_iff : ∀ {written : List String}, run.result = .ok written ↔
    inputs.map (fun path => (converter.convertFile files path directory).result) = written.map .ok
  /-- Otherwise the inputs that fail alone are reported, in order and with their faults.  Only if
  the output directory cannot be made, those after the first one may have another fault. -/
  failed : ∀ {fault : BatchFault}, run.result = .error fault → fault.kind = .conversion ∧
    ∃ front rest, ownFailures converter files directory inputs = front ++ rest ∧
      fault.detail = "Failed to convert " ++
        toString (ownFailures converter files directory inputs).length ++ " file(s):\n  " ++
          "\n  ".intercalate ((front ++ rest.map blockedAgain).map fun entry =>
            entry.1 ++ ": " ++ entry.2.message) ∧
      (rest ≠ [] → (files.makeDirectories directory).1 = .error .alreadyExists ∧
        ∃ path, (path, .io .alreadyExists) ∈ front)
  /-- The outputs of each input that succeeds are there. -/
  holds : ∀ path ∈ inputs, ∀ output,
    (converter.convertFile files path directory).result = .ok output →
      output = Path.output path directory declarationExtension ∧
        HoldsOutputs converter files run.files path directory
  /-- All of this is the same in whatever order the directory is listed. -/
  order : ∀ files', Relists files files' →
    SameRun run (converter.convertDirectory files' input directory)

/-! ## From results to the report -/

theorem convertDirectory_of_diagramsIn (converter : Converter)
    (h : Converter.diagramsIn files input = .ok inputs) (directory : String) :
    (converter.convertDirectory files input directory).result =
        Converter.summarize (converter.convertEach files directory inputs).result ∧
      (converter.convertDirectory files input directory).files =
        (converter.convertEach files directory inputs).files := by
  rw [Converter.convertDirectory, h]
  exact ⟨rfl, rfl⟩

section

variable {front rest : List String} (hsplit : inputs = front ++ rest)
  (hresults : (converter.convertEach files directory inputs).result =
    front.map (fun path => (path, (converter.convertFile files path directory).result)) ++
      rest.map (fun path => (path,
        (converter.convertFile files path directory).result.mapError FileFault.again)))
  (hrest : rest ≠ [] → (files.makeDirectories directory).1 = .error .alreadyExists ∧
    ∃ path ∈ front, (converter.convertFile files path directory).result =
      .error (.io .alreadyExists))

include hsplit hresults hrest

/-- The results of all inputs are outputs exactly if those of the inputs alone are. -/
theorem summarize_convertEach_eq_ok_iff {written : List String} :
    Converter.summarize (converter.convertEach files directory inputs).result = .ok written ↔
      inputs.map (fun path => (converter.convertFile files path directory).result) =
        written.map .ok := by
  rw [summarize_eq_ok_iff, hresults, hsplit]
  by_cases hnil : rest = []
  · rw [hnil, List.map_nil, List.append_nil, List.append_nil, List.map_map]
    rfl
  · -- An input fails, in the batch as alone.
    obtain ⟨-, path, hpath, hfault⟩ := hrest hnil
    have hfails : ∀ results : List (Except FileFault String),
        .error (.io .alreadyExists) ∈ results → results ≠ written.map .ok := by
      rintro results hmem rfl
      obtain ⟨output, -, houtput⟩ := List.mem_map.1 hmem
      cases houtput
    refine iff_of_false (hfails _ ?_) (hfails _ ?_)
    · rw [List.map_append, List.map_map, ← hfault]
      exact List.mem_append_left _ (List.mem_map_of_mem hpath)
    · rw [List.map_append, ← hfault]
      exact List.mem_append_left _ (List.mem_map_of_mem hpath)

/-- What is reported is what the inputs report alone, up to the input that finds a file in the way
of the output directory. -/
theorem detail_of_summarize_convertEach {fault : BatchFault}
    (h : Converter.summarize (converter.convertEach files directory inputs).result =
      .error fault) :
    fault.kind = .conversion ∧
      ∃ front rest, ownFailures converter files directory inputs = front ++ rest ∧
        fault.detail = "Failed to convert " ++
          toString (ownFailures converter files directory inputs).length ++ " file(s):\n  " ++
            "\n  ".intercalate ((front ++ rest.map blockedAgain).map fun entry =>
              entry.1 ++ ": " ++ entry.2.message) ∧
        (rest ≠ [] → (files.makeDirectories directory).1 = .error .alreadyExists ∧
          ∃ path, (path, .io .alreadyExists) ∈ front) := by
  rw [summarize_eq, hresults, List.filterMap_append, filterMap_failure?_again,
    List.filterMap_map] at h
  split at h
  · cases h
  · obtain rfl := Except.error.inj h
    have hown : ownFailures converter files directory inputs =
        ownFailures converter files directory front ++
          ownFailures converter files directory rest := by
      rw [hsplit]
      exact List.filterMap_append
    refine ⟨rfl, _, _, hown, ?_, fun hne => ?_⟩
    · rw [hown, List.length_append, detail_failures, List.length_append, List.length_map]
      rfl
    · have hnil : rest ≠ [] := by
        rintro rfl
        exact hne rfl
      obtain ⟨hblocked, path, hpath, hfault⟩ := hrest hnil
      exact ⟨hblocked, path, List.mem_filterMap.2 ⟨path, hpath, by rw [hfault]; rfl⟩⟩

end

/-- An input that is converted alone has its outputs after the batch. -/
theorem holdsOutputs_convertEach
    (hdiagrams : ∀ path ∈ inputs, files.isFile path = true ∧ isDiagram path = true)
    (hstems : (inputs.map Path.fileStem?).Nodup) {path output : String} (hpath : path ∈ inputs)
    (hok : (converter.convertFile files path directory).result = .ok output) :
    output = Path.output path directory declarationExtension ∧
      HoldsOutputs converter files (converter.convertEach files directory inputs).files path
        directory := by
  rcases hmade : files.makeDirectories directory with ⟨fault | _, made⟩
  · rw [convertFile_result_of_blocked path hmade, heldUp] at hok
    split at hok
    · cases hok
    · cases hok
  · have hrun := convertsFile converter files path directory
    rw [hok] at hrun
    exact ⟨hrun.holdsOutputs.1, (convertEach_of_made hmade hdiagrams hstems
      (ready_of_makeDirectories hmade)).2 path hpath output hok⟩

/-! ## Batches -/

/-- A batch converts each input as it would be converted alone, and reports all that fail. -/
theorem batchReport_convertDirectory (converter : Converter)
    (hinputs : Converter.diagramsIn files input = .ok inputs)
    (hstems : (inputs.map Path.fileStem?).Nodup) (directory : String) :
    BatchReport converter files input directory inputs
      (converter.convertDirectory files input directory) := by
  have hdiagrams : ∀ path ∈ inputs, files.isFile path = true ∧ isDiagram path = true :=
    fun path => isDiagram_of_mem_diagramsIn hinputs
  obtain ⟨front, rest, hsplit, hresults, hrest⟩ :=
    exists_convertEach converter directory hdiagrams hstems
  obtain ⟨hrun, hfiles⟩ := convertDirectory_of_diagramsIn converter hinputs directory
  refine ⟨inputsInOrder_of_diagramsIn hinputs, fun {written} => ?_, fun {fault} herror => ?_,
    fun path hpath output hok => ?_,
    fun files' hlists => sameRun_convertDirectory hlists.sameFiles converter input directory⟩
  · rw [hrun]
    exact summarize_convertEach_eq_ok_iff hsplit hresults hrest
  · rw [hrun] at herror
    exact detail_of_summarize_convertEach hsplit hresults hrest herror
  · rw [hfiles]
    exact holdsOutputs_convertEach hdiagrams hstems hpath hok

theorem batchReport_convertDirectory_two :
    let files := twoDiagrams "a.uml" "b.XML"
    Converter.diagramsIn files "in" = .ok ["in/a.uml", "in/b.XML"] ∧
      BatchReport standardConverter files "in" "out" ["in/a.uml", "in/b.XML"]
        (standardConverter.convertDirectory files "in" "out") := by
  have hinputs : Converter.diagramsIn (twoDiagrams "a.uml" "b.XML") "in" =
      .ok ["in/a.uml", "in/b.XML"] := by
    have hnames : (twoDiagrams "a.uml" "b.XML").namesIn "in" = .ok ["a.uml", "b.XML"] := by
      decide +kernel
    rw [diagramsIn_of_sorted hnames (by decide +kernel)]
    decide +kernel
  exact ⟨hinputs,
    batchReport_convertDirectory standardConverter hinputs (by decide +kernel) "out"⟩

/-- Two diagrams, and a file where the output directory would be. -/
def fileInTheWay : FileSystem := (twoDiagrams "a.uml" "b.XML").withFile "f" ""

/-- The output directory is below a file, and the path to it leads through a directory that is
missing at first.  The second input is not reported as it would be alone. -/
theorem file_reported_on_the_way :
    (["in/a.uml", "in/b.XML"].map Path.fileStem?).Nodup ∧
      (standardConverter.convertFile fileInTheWay "in/b.XML" "new/../f/out").result =
        .error (.io .alreadyExists) ∧
      (standardConverter.convertDirectory fileInTheWay "in" "new/../f/out").result =
        .error (.failures
          [("in/a.uml", .io .alreadyExists), ("in/b.XML", .io .notADirectory)]) := by
  have hnames : fileInTheWay.namesIn "in" = .ok ["a.uml", "b.XML"] := by decide +kernel
  refine ⟨by decide +kernel, by decide +kernel, ?_⟩
  rw [convertDirectory_of_sorted hnames (by decide +kernel)]
  decide +kernel

end ClassDiagram
