import ClassDiagram.Fault
import ClassDiagram.Text.AsciiCase
import ClassDiagram.Text.Blank
import ClassDiagram.Text.Case
import ClassDiagram.Xml.Node

/-!
# Names, ids and comments in a diagram

The conventions by which elements are named: `Entity (table)` names a class
together with its table, a type from outside is named by the last component of
an address, and members named `id` are not members.  An element's id and its
comment stand in fixed places.
-/

namespace ClassDiagram

/-! ## Names -/

/-- Whether a member's name says that it is the id of its entity. -/
def isIdName (name : String) : Bool :=
  Text.equalIgnoringCase (Text.trim name) "id"

/-- Whether the name of a class says that it is the user class. -/
def isUserName (name : String) : Bool :=
  Text.equalIgnoringCase name "user"

/-- The two names of a class. -/
structure ClassName where
  entity : String
  /-- The table, if one is named. -/
  table : Option String
deriving DecidableEq

namespace ClassName

/-- The table named by the characters after the first `(`. -/
def tableOf (rest : List Char) : Option String :=
  let table := Text.trimChars (Text.dropEnd (· = ')') (Text.trimChars rest))
  if table.isEmpty then none else some (String.ofList table)

/-- Splits `Entity (table)` at the first `(`.  All `)` at the end belong to the notation. -/
def split (name : String) : ClassName where
  entity := String.ofList (Text.trimChars (name.toList.takeWhile (· ≠ '(')))
  table :=
    match name.toList.dropWhile (· ≠ '(') with
    | [] => none
    | _ :: rest => tableOf rest

end ClassName

/-- What follows the last `mark`; everything if there is none. -/
def afterLast (mark : Char) (cs : List Char) : List Char :=
  (cs.reverse.takeWhile (· ≠ mark)).reverse

/-- The type named by an address: the last component of its fragment, or of the whole address if
it has no fragment.  Slashes at the end do not count. -/
def typeNameOfAddress (address : String) : String :=
  String.ofList (afterLast '/' (Text.dropEnd (· = '/') (afterLast '#' address.toList)))

/-- The characters after the last mark do not hold it. -/
theorem ne_of_mem_afterLast {mark c : Char} {cs : List Char} (h : c ∈ afterLast mark cs) :
    c ≠ mark := by
  rw [afterLast, List.mem_reverse] at h
  simpa using List.all_eq_true.1 (List.all_takeWhile (p := (· ≠ mark)) (l := cs.reverse)) c h

/-! ## Ids and comments -/

/-- The attribute that holds an id. -/
def idAttribute : String := "xmi:id"

/-- The id of an element. -/
def elementId (node : Xml.Node) : Except Fault ElementId :=
  match node.text? idAttribute with
  | some id => .ok id
  | none => .error (.missingId node.tag ((node.attribute? "name").getD ""))

/-- The key under which a comment is kept. -/
def commentKey : String := "gmm-documentation"

/-- The comment on an element: the second detail of its first annotation, if that is a comment. -/
def comment? (node : Xml.Node) : Option String := do
  let annotation ← node.childTagged? "eAnnotations" 0
  let detail ← annotation.childTagged? "details" 1
  if detail.attribute? "key" = some commentKey then detail.attribute? "value" else none

end ClassDiagram
