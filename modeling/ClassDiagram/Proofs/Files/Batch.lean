import ClassDiagram.Proofs.Files.Outputs
import ClassDiagram.Proofs.Utf8
import Mathlib.Data.List.Nodup

/-!
# Batches over directories

The inputs of a batch are the diagrams in a directory, in the order of their names.  If all are
converted, there is one output for each of them, and the outputs are distinct exactly if the
stems of the inputs are (`batchOutputs_of_convertDirectory`).  Inputs that differ only in their
extensions share an output, and the last of them keeps it (`output_shared`).
-/

namespace ClassDiagram

open FileSystem

/-! ## Inputs -/

theorem eq_append_of_below? {top location rest : Location} (h : below? top location = some rest) :
    location = top ++ rest := by
  unfold below? at h
  split at h
  · next hbelow =>
      obtain ⟨rest', rfl⟩ := List.isPrefixOf_iff_prefix.1 hbelow.1
      rw [← Option.some.inj h, List.drop_left]
  · cases h

/-- No name stands in a directory twice. -/
theorem nodup_namesIn {files : FileSystem} {path : String} {names : List String}
    (h : files.namesIn path = .ok names) : names.Nodup := by
  obtain ⟨⟨top, entry⟩, -, h⟩ := bind_eq_ok.1 h
  cases entry with
  | file content => cases h
  | directory =>
      obtain rfl := Except.ok.inj h
      refine List.Nodup.filterMap (fun location location' name hname hname' => ?_)
        files.entries.nodup_keys
      split at hname
      · next step hbelow =>
          split at hname'
          · next step' hbelow' =>
              have hsteps : step = step' := String.ofList_injective
                ((Option.some.inj hname).trans (Option.some.inj hname').symm)
              rw [eq_append_of_below? hbelow, eq_append_of_below? hbelow', hsteps]
          · cases hname'
      · cases hname

/-- The diagrams in a directory are the files in it that have an extension of diagrams. -/
theorem perm_of_diagramsIn {files : FileSystem} {input : String} {inputs : List String}
    (h : Converter.diagramsIn files input = .ok inputs) :
    ∃ names, files.namesIn input = .ok names ∧
      inputs.Perm ((names.map (Path.join input)).filter fun path =>
        files.isFile path && isDiagram path) := by
  obtain ⟨names, hnames, rfl⟩ := map_eq_ok.1 h
  exact ⟨names, hnames, ((List.mergeSort_perm names _).map _).filter _⟩

theorem isDiagram_of_mem_diagramsIn {files : FileSystem} {input path : String}
    {inputs : List String} (h : Converter.diagramsIn files input = .ok inputs)
    (hpath : path ∈ inputs) : files.isFile path = true ∧ isDiagram path = true := by
  obtain ⟨names, -, rfl⟩ := map_eq_ok.1 h
  exact Bool.and_eq_true_iff.1 (List.mem_filter.1 hpath).2

/-! ## Outputs -/

/-- Outputs of diagrams are distinct exactly if the stems are. -/
theorem nodup_outputs_iff {inputs : List String} (h : ∀ path ∈ inputs, isDiagram path = true)
    (directory : String) :
    (inputs.map fun path => Path.output path directory declarationExtension).Nodup ↔
      (inputs.map Path.fileStem?).Nodup := by
  rw [List.Nodup, List.Nodup, List.pairwise_map, List.pairwise_map]
  refine List.Pairwise.iff_of_mem fun {path other} hpath hother => not_congr ?_
  obtain ⟨stem, hstem⟩ := exists_stem_of_isDiagram (h path hpath)
  obtain ⟨stem', hstem'⟩ := exists_stem_of_isDiagram (h other hother)
  rw [Path.output_eq_iff hstem isExtension_declarationExtension hstem' directory, hstem, hstem',
    Option.some.injEq]

/-- What a batch has written when all its inputs were converted. -/
structure BatchOutputs (converter : Converter) (files files' : FileSystem)
    (input directory : String) (inputs written : List String) : Prop where
  /-- The inputs are the files in the directory with an extension of diagrams, once each. -/
  perm : ∃ names, files.namesIn input = .ok names ∧ names.Nodup ∧
    inputs.Perm ((names.map (Path.join input)).filter fun path =>
      files.isFile path && isDiagram path)
  /-- There is one output for each input. -/
  written_eq : written = inputs.map fun path => Path.output path directory declarationExtension
  nodup_iff : written.Nodup ↔ (inputs.map Path.fileStem?).Nodup
  /-- Of inputs with the same stem the last one keeps its output. -/
  last : ∀ front path rest, inputs = front ++ path :: rest →
    (∀ other ∈ rest, Path.fileStem? other ≠ Path.fileStem? path) →
    HoldsConversion converter files files' path directory
  /-- If the stems are distinct, every input keeps its output. -/
  all : (inputs.map Path.fileStem?).Nodup →
    ∀ path ∈ inputs, HoldsConversion converter files files' path directory

/-- A batch that succeeds has converted every diagram in the directory.  No output takes the place
of another one exactly if the stems of the diagrams are distinct. -/
theorem batchOutputs_of_convertDirectory {converter : Converter} {files : FileSystem}
    {input directory : String} {written : List String}
    (h : (converter.convertDirectory files input directory).result = .ok written) :
    ∃ inputs, BatchOutputs converter files
      (converter.convertDirectory files input directory).files input directory inputs written := by
  unfold Converter.convertDirectory at h ⊢
  cases hinputs : Converter.diagramsIn files input with
  | error fault =>
      rw [hinputs] at h
      cases h
  | ok inputs =>
      rw [hinputs] at h
      obtain ⟨names, hnames, hperm⟩ := perm_of_diagramsIn hinputs
      have hdiagrams : ∀ path ∈ inputs, files.isFile path = true ∧ isDiagram path = true :=
        fun path => isDiagram_of_mem_diagramsIn hinputs
      obtain ⟨rfl, -, hlast⟩ := convertEach_eq_ok hdiagrams (summarize_eq_ok_iff.1 h)
      refine ⟨inputs, ⟨names, hnames, nodup_namesIn hnames, hperm⟩, rfl,
        nodup_outputs_iff (fun path hpath => (hdiagrams path hpath).2) directory, hlast,
        fun hstems path hpath => ?_⟩
      obtain ⟨front, rest, rfl⟩ := List.append_of_mem hpath
      refine hlast front path rest rfl fun other hother hsame => ?_
      rw [List.map_append, List.map_cons] at hstems
      have hnot := (List.nodup_cons.1 (List.nodup_append.1 hstems).2.1).1
      exact hnot (hsame ▸ List.mem_map_of_mem hother)

/-! ## Two inputs -/

/-- Names that are sorted already are taken in their order. -/
theorem diagramsIn_of_sorted {files : FileSystem} {input : String} {names : List String}
    (hnames : files.namesIn input = .ok names)
    (hsorted : names.Pairwise fun a b => decide (a ≤ b) = true) :
    Converter.diagramsIn files input = .ok ((names.map (Path.join input)).filter
      fun path => files.isFile path && isDiagram path) := by
  rw [Converter.diagramsIn, hnames]
  simp only [Except.map, List.mergeSort_of_pairwise hsorted]

theorem convertDirectory_of_sorted {converter : Converter} {files : FileSystem}
    {input directory : String} {names : List String} (hnames : files.namesIn input = .ok names)
    (hsorted : names.Pairwise fun a b => decide (a ≤ b) = true) :
    converter.convertDirectory files input directory =
      let run := converter.convertEach files directory ((names.map (Path.join input)).filter
        fun path => files.isFile path && isDiagram path)
      ⟨Converter.summarize run.result, run.files, run.notices⟩ := by
  rw [Converter.convertDirectory, diagramsIn_of_sorted hnames hsorted]

/-- A document with an interface. -/
def pricedDocument : String :=
  "<uml:Model><packagedElement xsi:type=\"uml:Interface\" xmi:id=\"i\" name=\"Priced\"/>" ++
  "</uml:Model>"

/-- The files with one more, unless it cannot be written. -/
def FileSystem.withFile (files : FileSystem) (path text : String) : FileSystem :=
  match files.writeDeep path (Utf8.encodeText text) with
  | .ok written => written
  | .error _ => files

/-- A directory with that document and with one that declares nothing. -/
def twoDiagrams (priced empty : String) : FileSystem :=
  (FileSystem.fresh.withFile ("in/" ++ priced) pricedDocument).withFile ("in/" ++ empty)
    "<uml:Model/>"

/-- The converter that is used unless options are given. -/
def standardConverter : Converter := ⟨.sql, .standard⟩

/-- Two diagrams of distinct stems have two outputs. -/
theorem batchOutputs_of_convertDirectory_two :
    let run := standardConverter.convertDirectory (twoDiagrams "a.uml" "b.XML") "in" "out"
    run.result = .ok ["out/a.ts", "out/b.ts"] ∧
      ∃ inputs, BatchOutputs standardConverter (twoDiagrams "a.uml" "b.XML") run.files "in" "out"
        inputs ["out/a.ts", "out/b.ts"] := by
  have hnames : (twoDiagrams "a.uml" "b.XML").namesIn "in" = .ok ["a.uml", "b.XML"] := by
    decide +kernel
  have hresult : (standardConverter.convertDirectory (twoDiagrams "a.uml" "b.XML")
      "in" "out").result = .ok ["out/a.ts", "out/b.ts"] := by
    rw [convertDirectory_of_sorted hnames (by decide +kernel)]
    decide +kernel
  exact ⟨hresult, batchOutputs_of_convertDirectory hresult⟩

/-- Of two diagrams with the same stem, the first one does not keep its output. -/
theorem output_shared :
    let run := standardConverter.convertDirectory (twoDiagrams "a.uml" "a.xml") "in" "out"
    ∃ written, run.result = .ok written ∧ ¬written.Nodup ∧
      ¬HoldsConversion standardConverter (twoDiagrams "a.uml" "a.xml") run.files
        "in/a.uml" "out" := by
  have hnames : (twoDiagrams "a.uml" "a.xml").namesIn "in" = .ok ["a.uml", "a.xml"] := by
    decide +kernel
  have hrun : (fun run : FileRun (Except BatchFault (List String)) =>
      (run.result, run.files.read (Path.output "in/a.uml" "out" declarationExtension)))
        (standardConverter.convertDirectory (twoDiagrams "a.uml" "a.xml") "in" "out") =
      (.ok ["out/a.ts", "out/a.ts"], .ok []) := by
    rw [convertDirectory_of_sorted hnames (by decide +kernel)]
    decide +kernel
  have hpriced : (standardConverter.convertText pricedDocument).result.map
      (fun conversion => (Utf8.encodeText conversion.text).isEmpty) = .ok false := by
    decide +kernel
  obtain ⟨hresult, hread⟩ := Prod.mk.inj hrun
  refine ⟨_, hresult, by decide, ?_⟩
  rintro ⟨document, conversion, hdocument, hconversion, hholds⟩
  have hinput : (twoDiagrams "a.uml" "a.xml").readText "in/a.uml" = .ok pricedDocument := by
    have hbytes : (twoDiagrams "a.uml" "a.xml").read "in/a.uml" =
        .ok (Utf8.encodeText pricedDocument) := by decide +kernel
    rw [FileSystem.readText, hbytes]
    show (Utf8.decodeText (Utf8.encode pricedDocument.toList)).mapError _ = _
    rw [Utf8.decodeText_encode]
    rfl
  obtain rfl := Except.ok.inj (hinput.symm.trans hdocument)
  have hempty : [] = Utf8.encodeText conversion.text := Except.ok.inj (hread.symm.trans hholds)
  rw [hconversion] at hpriced
  have hfilled : (Utf8.encodeText conversion.text).isEmpty = false := Except.ok.inj hpriced
  rw [← hempty] at hfilled
  cases hfilled

end ClassDiagram
