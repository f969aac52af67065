import ClassDiagram.Element.Kind
import ClassDiagram.Script

/-!
# The elements of a diagram by kind

`Buckets.classify` goes once over the packaged elements of a model and notes the
position of each in the bucket of its kind.  `Packages` lists the elements
themselves: `indices` gives the positions of the elements of one kind, and
`select` looks the elements up at these positions.
-/

namespace ClassDiagram

/-! ## Buckets -/

/-- Positions of elements, by the kinds of elements that are read. -/
structure Buckets where
  types : List Nat := []
  enumerations : List Nat := []
  classes : List Nat := []
  associations : List Nat := []
  interfaces : List Nat := []
deriving DecidableEq

namespace Buckets

/-- The bucket of a kind. -/
def ofKind (buckets : Buckets) : ElementKind → List Nat
  | .type => buckets.types
  | .enumeration => buckets.enumerations
  | .entity .concrete => buckets.classes
  | .association => buckets.associations
  | .entity .interface => buckets.interfaces

/-- Puts a position into the bucket of a kind, after those that are there. -/
def push (buckets : Buckets) (kind : ElementKind) (index : Nat) : Buckets :=
  match kind with
  | .type => { buckets with types := buckets.types ++ [index] }
  | .enumeration => { buckets with enumerations := buckets.enumerations ++ [index] }
  | .entity .concrete => { buckets with classes := buckets.classes ++ [index] }
  | .association => { buckets with associations := buckets.associations ++ [index] }
  | .entity .interface => { buckets with interfaces := buckets.interfaces ++ [index] }

/-- Notes the position of an element, unless it is of a kind that is not read. -/
def note (buckets : Buckets) (node : Xml.Node) (index : Nat) : Buckets :=
  match ElementKind.ofNode? node with
  | some kind => buckets.push kind index
  | none => buckets

/-- The positions of some elements, by kind. -/
def classify (elements : List Xml.Node) : Buckets :=
  elements.zipIdx.foldl (fun buckets (node, index) => buckets.note node index) {}

/-- The number of positions in all buckets. -/
def length (buckets : Buckets) : Nat :=
  buckets.types.length + buckets.enumerations.length + buckets.classes.length +
    buckets.associations.length + buckets.interfaces.length

end Buckets

/-! ## Elements -/

/-- The packaged elements of a model. -/
structure Packages where
  elements : List Xml.Node

namespace Packages

/-- The tag of packaged elements. -/
def elementTag : String := "packagedElement"

/-- The packaged elements directly in `model`. -/
def ofModel (model : Xml.Node) : Packages := ⟨model.childrenTagged elementTag⟩

/-- The positions of the elements of one kind. -/
def indices (packages : Packages) (kind : ElementKind) : List Nat :=
  (Buckets.classify packages.elements).ofKind kind

/-- The elements of one kind. -/
def select (packages : Packages) (kind : ElementKind) : List Xml.Node :=
  (packages.indices kind).filterMap (packages.elements[·]?)

/-- The number of elements of the kinds that are read. -/
def recognised (packages : Packages) : Nat :=
  (Buckets.classify packages.elements).length

/-- What is reported of the elements that are passed over. -/
def skipped (packages : Packages) : List Notice :=
  packages.elements.zipIdx.filterMap fun (node, index) =>
    match ElementKind.ofNode? node with
    | some _ => none
    | none => some (.skippedElement index (node.attribute? ElementKind.typeAttribute))

/-- Reports the elements that are passed over. -/
def reportAllSkipped (packages : Packages) : Builder Store Unit :=
  packages.skipped.forM Builder.report

/-- What `reportAllSkipped` does. -/
def reportSkipped (packages : Packages) : Script Unit :=
  packages.skipped.forM Script.report

end Packages

end ClassDiagram
