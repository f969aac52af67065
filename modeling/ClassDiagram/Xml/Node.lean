import ClassDiagram.OrderedMap

/-!
# Element trees

A `Node` is an element with its tag, its attributes in document order and its
child elements in document order.  Character data is not kept: everything that
a class diagram says stands in tags and attributes.
-/

namespace ClassDiagram.Xml

/-- An element with its attributes and child elements. -/
structure Node where
  /-- The qualified tag. -/
  tag : String
  /-- The values of the attributes by qualified name. -/
  attributes : OrderedMap String String
  /-- The child elements. -/
  children : List Node
deriving Inhabited

namespace Node

/-- The element without attributes and children. -/
def ofTag (tag : String) : Node := ⟨tag, ∅, []⟩

/-- The element with one more attribute, or with a new value for one that it has. -/
def withAttribute (node : Node) (name value : String) : Node :=
  { node with attributes := node.attributes.insert name value }

/-- The element with one more child after the others. -/
def withChild (node child : Node) : Node :=
  { node with children := node.children ++ [child] }

/-- The value of an attribute. -/
def attribute? (node : Node) (name : String) : Option String :=
  node.attributes.get? name

/-- The value of an attribute, where an empty value counts as absent. -/
def text? (node : Node) (name : String) : Option String :=
  (node.attribute? name).filter (· ≠ "")

/-- The children with the given tag, in document order. -/
def childrenTagged (node : Node) (tag : String) : List Node :=
  node.children.filter (·.tag = tag)

/-- The child at `index` among those with the given tag. -/
def childTagged? (node : Node) (tag : String) (index : Nat) : Option Node :=
  (node.childrenTagged tag)[index]?

/-- A text attribute is never the empty text. -/
theorem ne_empty_of_text? {node : Node} {name value : String}
    (h : node.text? name = some value) : value ≠ "" := by
  simp only [text?, Option.filter_eq_some_iff, decide_eq_true_eq] at h
  exact h.2

/-- The new child stands last among those with its tag. -/
theorem childrenTagged_withChild (node child : Node) (tag : String) :
    (node.withChild child).childrenTagged tag =
      node.childrenTagged tag ++ if child.tag = tag then [child] else [] := by
  simp only [childrenTagged, withChild, List.filter_append]
  split <;> simp_all

end Node

end ClassDiagram.Xml
