import ClassDiagram.Element.Association
import ClassDiagram.Element.Entity
import ClassDiagram.Element.Packages
import ClassDiagram.Xml.Document

/-!
# Reading a diagram

A document holds its model either at the root or alone inside a wrapper.  The
packaged elements of the model are read in stages, one kind of element after the
other, and enter a store that is empty at first.  The first fault ends the
reading.
-/

namespace ClassDiagram

/-! ## The model of a document -/

/-- The tag of a model. -/
def modelTag : String := "uml:Model"

/-- The tag of the wrapper around a model. -/
def wrapperTag : String := "xmi:XMI"

/-- The model in a document. -/
def modelRoot (document : Xml.Node) : Except Fault Xml.Node :=
  if document.tag = modelTag then .ok document
  else if document.tag = wrapperTag then
    match document.childrenTagged modelTag with
    | [] => .error (.missingModel wrapperTag modelTag)
    | [model] => .ok model
    | _ => .error (.severalModels wrapperTag modelTag)
  else .error (.unexpectedRoot modelTag wrapperTag document.tag)

/-- The root element of a document in bytes. -/
def readTree (bytes : Bytes) : Except Fault Xml.Node :=
  (Xml.readDocument bytes).mapError .malformedXml

/-! ## Stages -/

/-- Enters an element of a given kind. -/
def buildElement (system : TypeSystem) (kind : ElementKind) (node : Xml.Node) :
    Builder Store Unit :=
  match kind with
  | .type => buildType system node
  | .enumeration => do let _ ← buildEnumeration node
  | .entity kind => do let _ ← buildEntity system kind node
  | .association => do let _ ← buildAssociation node

/-- Enters all elements of one kind. -/
def buildStage (system : TypeSystem) (packages : Packages) (kind : ElementKind) :
    Builder Store Unit := do
  (packages.select kind).forM (buildElement system kind)
  Builder.report (.stageDone kind)

/-- Enters all elements, stage by stage. -/
def buildPackages (system : TypeSystem) (packages : Packages) : Builder Store Unit := do
  packages.reportAllSkipped
  Builder.report (.classified packages.recognised packages.elements.length)
  ElementKind.stages.forM (buildStage system packages)

/-- Enters the elements of one kind from a model by itself. -/
def buildModelStage (system : TypeSystem) (model : Xml.Node) (kind : ElementKind) :
    Builder Store Unit := do
  let packages := Packages.ofModel model
  packages.reportAllSkipped
  buildStage system packages kind

/-! ## What the stages do -/

/-- What `buildElement` does. -/
def recordElement (system : TypeSystem) (kind : ElementKind) (node : Xml.Node) : Script Unit :=
  match kind with
  | .type => recordType system node
  | .enumeration => do let _ ← recordEnumeration node
  | .entity kind => do let _ ← recordEntity system kind node
  | .association => do let _ ← recordAssociation node

/-- What `buildStage` does. -/
def recordStage (system : TypeSystem) (packages : Packages) (kind : ElementKind) :
    Script Unit := do
  (packages.select kind).forM (recordElement system kind)
  Script.report (.stageDone kind)

/-- What `buildPackages` does. -/
def recordPackages (system : TypeSystem) (packages : Packages) : Script Unit := do
  packages.reportSkipped
  Script.report (.classified packages.recognised packages.elements.length)
  ElementKind.stages.forM (recordStage system packages)

/-- What `buildModelStage` does. -/
def recordModelStage (system : TypeSystem) (model : Xml.Node) (kind : ElementKind) :
    Script Unit := do
  let packages := Packages.ofModel model
  packages.reportSkipped
  recordStage system packages kind

/-! ## Whole diagrams -/

/-- A result together with what was reported on the way. -/
structure Reported (α : Type) where
  result : α
  notices : List Notice

/-- Reads a model into a store. -/
def readModel (system : TypeSystem) (model : Xml.Node) : Reported (Except Fault Store) :=
  let run := (buildPackages system (Packages.ofModel model)).run Store.empty
  ⟨run.finished, run.notices⟩

/-- Reads a document into a store. -/
def readDiagram (system : TypeSystem) (document : String) : Reported (Except Fault Store) :=
  match readTree (Utf8.encodeText document) >>= modelRoot with
  | .error fault => ⟨.error fault, []⟩
  | .ok model => readModel system model

/-- The name of the dialect of diagrams that is read. -/
def dialectName : String := "GenMyModel"

/-- Reads the constraints of a model, which this dialect does not have. -/
def readConstraints (_model : Xml.Node) : Except Fault Unit :=
  .error (.unsupportedConstraints dialectName)

end ClassDiagram
