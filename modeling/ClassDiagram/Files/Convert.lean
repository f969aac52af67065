import ClassDiagram.Conversion
import ClassDiagram.Files.FileSystem

/-!
# Converting files

`convertFile` reads a diagram from a file and writes its declarations, and on
request its model, to files of the same stem in an output directory.  Either all
of its outputs are written or none is left behind.  `convertDirectory` converts
every diagram in a directory, in the order of their names; a diagram that cannot
be converted does not keep the others from being converted.
-/

namespace ClassDiagram

/-- The extension of declarations. -/
def declarationExtension : String := "ts"

/-- The extension of models. -/
def modelExtension : String := "json"

/-- The extensions of diagrams. -/
def diagramExtensions : List String := ["xml", "xmi", "uml"]

/-- Whether a path has the extension of a diagram, in capitals or not. -/
def isDiagram (path : String) : Bool :=
  match Path.extension? path with
  | some extension => diagramExtensions.any (Text.equalIgnoringCase · extension)
  | none => false

/-- Why a file is not converted. -/
inductive FileFault where
  | io (fault : IoFault)
  | diagram (fault : Fault)
deriving DecidableEq

namespace FileFault

/-- The kind of error. -/
def kind : FileFault → ErrorKind
  | io _ => .io
  | diagram fault => fault.kind

/-- The whole message. -/
def message : FileFault → String
  | io fault => ErrorKind.io.message fault.message
  | diagram fault => fault.message

end FileFault

/-- Why a directory is not converted, or not in full. -/
inductive BatchFault where
  /-- The directory cannot be read. -/
  | unreadable (fault : IoFault)
  /-- Some inputs failed. -/
  | failures (inputs : List (String × FileFault))
deriving DecidableEq

namespace BatchFault

/-- The kind of error. -/
def kind : BatchFault → ErrorKind
  | unreadable _ => .io
  | failures _ => .conversion

/-- The fault in words: of inputs that failed there is one line each. -/
def detail : BatchFault → String
  | unreadable fault => fault.message
  | failures inputs =>
      let lines := inputs.map fun (input, fault) => input ++ ": " ++ fault.message
      s!"Failed to convert {inputs.length} file(s):\n  " ++ "\n  ".intercalate lines

/-- The whole message. -/
def message (fault : BatchFault) : String := fault.kind.message fault.detail

end BatchFault

/-- A result, the files after it and what was reported. -/
structure FileRun (α : Type) where
  result : α
  files : FileSystem
  notices : List Notice

namespace Converter

/-- Writes the outputs of a conversion.  If the second one cannot be written, the first one is
removed again. -/
def writeOutputs (converter : Converter) (files : FileSystem) (conversion : Conversion)
    (input directory : String) : FileRun (Except FileFault String) :=
  let output := Path.output input directory declarationExtension
  let done := Notice.wroteDeclarations output input
  match files.write output (Utf8.encodeText conversion.text) with
  | .error fault => ⟨.error (.io fault), files, []⟩
  | .ok written =>
      if converter.options.writeModel then
        let modelPath := Path.output input directory modelExtension
        match written.write modelPath (Utf8.encodeText conversion.model.dump) with
        | .error fault => ⟨.error (.io fault), written.remove output, []⟩
        | .ok complete => ⟨.ok output, complete, [.wroteModel modelPath, done]⟩
      else ⟨.ok output, written, [done]⟩

/-- Converts the diagram in a file; the result is the path of the declarations. -/
def convertFile (converter : Converter) (files : FileSystem) (input directory : String) :
    FileRun (Except FileFault String) :=
  match files.readText input with
  | .error fault => ⟨.error (.io fault), files, []⟩
  | .ok document =>
      let converted := converter.convertText document
      match converted.result with
      | .error fault => ⟨.error (.diagram fault), files, converted.notices⟩
      | .ok conversion =>
          match files.makeDirectories directory with
          | (.error fault, made) => ⟨.error (.io fault), made, converted.notices⟩
          | (.ok (), made) =>
              let run := converter.writeOutputs made conversion input directory
              { run with notices := converted.notices ++ run.notices }

/-- Converts files one after the other, each with its own result. -/
def convertEach (converter : Converter) (files : FileSystem) (directory : String) :
    List String → FileRun (List (String × Except FileFault String))
  | [] => ⟨[], files, []⟩
  | input :: inputs =>
      let first := converter.convertFile files input directory
      let failed := match first.result with
        | .ok _ => []
        | .error fault => [Notice.conversionFailed input fault.message]
      let others := converter.convertEach first.files directory inputs
      ⟨(input, first.result) :: others.result, others.files,
        first.notices ++ failed ++ others.notices⟩

/-- The paths of the diagrams in a directory, sorted by name. -/
def diagramsIn (files : FileSystem) (directory : String) : Except IoFault (List String) :=
  (files.namesIn directory).map fun names =>
    ((names.mergeSort (fun a b => decide (a ≤ b))).map (Path.join directory)).filter fun path =>
      files.isFile path && isDiagram path

/-- The paths written, if every input succeeded. -/
def summarize (results : List (String × Except FileFault String)) :
    Except BatchFault (List String) :=
  let failed := results.filterMap fun (input, result) =>
    match result with
    | .ok _ => none
    | .error fault => some (input, fault)
  if failed = [] then
    .ok (results.filterMap fun (_, result) => result.toOption)
  else .error (.failures failed)

/-- Converts every diagram directly in a directory; the result lists the paths of the
declarations. -/
def convertDirectory (converter : Converter) (files : FileSystem) (input directory : String) :
    FileRun (Except BatchFault (List String)) :=
  match diagramsIn files input with
  | .error fault => ⟨.error (.unreadable fault), files, []⟩
  | .ok inputs =>
      let run := converter.convertEach files directory inputs
      ⟨summarize run.result, run.files, run.notices⟩

end Converter

end ClassDiagram
