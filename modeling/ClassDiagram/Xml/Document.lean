import ClassDiagram.Xml.Reader

/-!
# Reading a document into its root element

`Assembly` is a tree under construction: the elements that are open, innermost
first, each with the children that are complete, and the root once it is
complete.  `Progress.step` lets the reader advance by one event and the assembly
follow it; `readDocument` steps to the end of the bytes.  The stack of open
nodes thus always stands beside the reader's list of open names.
-/

namespace ClassDiagram.Xml

/-- A tree under construction. -/
structure Assembly where
  /-- The open elements, innermost first. -/
  openNodes : List Node
  /-- The root, once it is closed. -/
  root : Option Node

namespace Assembly

/-- Nothing is open and there is no root. -/
def empty : Assembly := ⟨[], none⟩

/-- Puts a complete element where it belongs: into the innermost open one, or at the root. -/
def attach (assembly : Assembly) (node : Node) : Except Error Assembly :=
  match assembly.openNodes with
  | parent :: outer => .ok { assembly with openNodes := parent.withChild node :: outer }
  | [] =>
      match assembly.root with
      | some _ => .error (.severalRoots node.tag)
      | none => .ok { assembly with root := some node }

/-- Follows the reader by one event. -/
def feed (assembly : Assembly) : Event → Except Error Assembly
  | .opened content =>
      (Node.ofTagContent content).map fun node =>
        { assembly with openNodes := node :: assembly.openNodes }
  | .childless content => (Node.ofTagContent content).bind assembly.attach
  | .closed =>
      match assembly.openNodes with
      | [] => .error .closingNothing
      | node :: outer => attach { assembly with openNodes := outer } node
  | .skipped => .ok assembly

/-- The root of the finished tree. -/
def finish (assembly : Assembly) : Except Error Node :=
  match assembly.openNodes, assembly.root with
  | node :: _, _ => .error (.unclosedElement node.tag)
  | [], some root => .ok root
  | [], none => .error .noRoot

end Assembly

/-- A document read in part. -/
structure Progress where
  reader : Reader
  assembly : Assembly

namespace Progress

/-- Nothing is read yet. -/
def start (bytes : Bytes) : Progress := ⟨.ofBytes bytes, .empty⟩

/-- Reads one event; none at the end of the document. -/
def step (progress : Progress) : Except Error (Option Progress) :=
  match progress.reader.next with
  | .error error => .error error
  | .ok none => .ok none
  | .ok (some (event, reader)) =>
      (progress.assembly.feed event).map fun assembly => some ⟨reader, assembly⟩

/-- Each step takes at least one byte. -/
theorem length_lt_of_step {progress later : Progress} (h : progress.step = .ok (some later)) :
    later.reader.rest.length < progress.reader.rest.length := by
  unfold step at h
  split at h
  · simp at h
  · simp at h
  · next event reader hnext =>
      cases hfeed : progress.assembly.feed event with
      | error error => simp [hfeed, Except.map] at h
      | ok assembly =>
          simp only [hfeed, Except.map, Except.ok.injEq, Option.some.injEq] at h
          rw [← h]
          exact Reader.length_lt_of_next hnext

/-- Reads to the end of the document. -/
def run (progress : Progress) : Except Error Node :=
  match _h : progress.step with
  | .error error => .error error
  | .ok none => progress.assembly.finish
  | .ok (some later) => later.run
termination_by progress.reader.rest.length
decreasing_by exact length_lt_of_step _h

end Progress

/-- The root element of a document. -/
def readDocument (bytes : Bytes) : Except Error Node :=
  (Progress.start bytes).run

end ClassDiagram.Xml
