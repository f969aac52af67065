import ClassDiagram.Proofs.Insertion
import ClassDiagram.Proofs.Xml.Writing

/-!
# The canonical writing of elements

`Node.canonical` writes an element without any text between the tags: every value
stands in double quotes, with the five special characters as entities, and the
last character is the `>` that ends the element.  A writer still has two ways to
write an element without children (`LeafForm`).

The canonical writing of an element whose names are names is one of the writings
that `Writes` describes (`writes_canonicalAll`).
-/

namespace ClassDiagram.Xml

/-- How an element without children is written. -/
inductive LeafForm where
  /-- By one tag. -/
  | emptyTag
  /-- By a start tag and an end tag. -/
  | tagPair
deriving DecidableEq

/-- A character as it stands in a value: by its entity if it has one. -/
def escapeChar (c : Char) : List Char :=
  match entities.lookup c with
  | some name => '&' :: name ++ [';']
  | none => [c]

/-- The characters of a value. -/
def escape (value : List Char) : List Char := value.flatMap escapeChar

/-- Attributes in order, each after one space and with its value in double quotes. -/
def canonicalAttributes (attributes : List (String × String)) : List Char :=
  attributes.flatMap fun (key, value) =>
    ' ' :: key.toList ++ '=' :: doubleQuote :: escape value.toList ++ [doubleQuote]

/-- The name of an element and its attributes. -/
def canonicalTag (tag : String) (attributes : OrderedMap String String) : List Char :=
  tag.toList ++ canonicalAttributes attributes.entries

mutual

/-- An element, without text between the tags. -/
def Node.canonical (form : LeafForm) : Node → List Char
  | ⟨tag, attributes, children⟩ =>
      let start := '<' :: canonicalTag tag attributes
      if children.isEmpty ∧ form = .emptyTag then start ++ ['/', '>']
      else start ++ '>' :: canonicalAll form children ++ ['<', '/'] ++ tag.toList ++ ['>']

/-- Elements one after the other. -/
def canonicalAll (form : LeafForm) : List Node → List Char
  | [] => []
  | node :: nodes => node.canonical form ++ canonicalAll form nodes

end

/-- All tags and attribute keys of the element and of those in it are names. -/
inductive Node.IsNamed : Node → Prop where
  | named {node : Node} (htag : IsName node.tag.toList)
      (hkeys : ∀ key ∈ node.attributes.keys, IsName key.toList)
      (hchildren : ∀ child ∈ node.children, child.IsNamed) : node.IsNamed

/-! ## Values and tags -/

theorem writesChar_escapeChar (c : Char) : WritesChar c (escapeChar c) := by
  have hnodup : (entities.map Prod.fst).Nodup := by decide
  unfold escapeChar
  split
  · next name hname =>
      exact .entity ((OrderedMap.lookup_eq_some_iff_mem hnodup).1 hname)
  · next hnone =>
      refine .raw fun hmem => ?_
      obtain ⟨⟨c', name⟩, hentity, rfl⟩ := List.mem_map.1 hmem
      rw [(OrderedMap.lookup_eq_some_iff_mem hnodup).2 hentity] at hnone
      cases hnone

theorem writesValue_escape (value : List Char) : WritesValue value (escape value) := by
  induction value with
  | nil => exact .nil
  | cons c value ih => exact .cons (writesChar_escapeChar c) ih

theorem writesAttributes_canonical {attributes : List (String × String)}
    (h : ∀ key ∈ attributes.map Prod.fst, IsName key.toList) :
    WritesAttributes attributes (canonicalAttributes attributes) := by
  induction attributes with
  | nil => exact .nil
  | cons entry rest ih =>
      obtain ⟨key, value⟩ := entry
      rw [List.map_cons, List.forall_mem_cons] at h
      have hwrites := WritesAttributes.cons h.1 (.inl rfl) (writesValue_escape value.toList)
        (ih h.2)
      simpa [canonicalAttributes] using hwrites

theorem writesTag_canonicalTag {node : Node} (h : node.IsNamed) :
    WritesTag node (canonicalTag node.tag node.attributes) := by
  obtain ⟨htag, hkeys, -⟩ := h
  exact .tag htag (writesAttributes_canonical hkeys)

/-! ## Elements -/

/-- An element is written by one tag, or by two tags around its children. -/
theorem canonical_cases (form : LeafForm) (node : Node) :
    (node.children = [] ∧
      node.canonical form = '<' :: canonicalTag node.tag node.attributes ++ ['/', '>']) ∨
    node.canonical form = '<' :: canonicalTag node.tag node.attributes ++ '>' ::
      canonicalAll form node.children ++ ['<', '/'] ++ node.tag.toList ++ ['>'] := by
  obtain ⟨tag, attributes, children⟩ := node
  unfold Node.canonical
  by_cases h : children.isEmpty ∧ form = .emptyTag
  · rw [if_pos h]
    exact .inl ⟨List.isEmpty_iff.1 h.1, rfl⟩
  · rw [if_neg h]
    exact .inr rfl

theorem canonicalAll_eq_flatMap (form : LeafForm) (nodes : List Node) :
    canonicalAll form nodes = nodes.flatMap (Node.canonical form) := by
  induction nodes with
  | nil => rfl
  | cons node nodes ih => rw [canonicalAll, ih, List.flatMap_cons]

mutual

/-- An element that is written before others is written together with these. -/
theorem writes_canonical_append (form : LeafForm) : ∀ node : Node, node.IsNamed →
    ∀ {nodes : List Node} {rest : List Char}, Writes nodes rest →
      Writes (node :: nodes) (node.canonical form ++ rest)
  | ⟨tag, attributes, children⟩, h, nodes, rest, hrest => by
      have htag := writesTag_canonicalTag h
      have hchildren : ∀ child ∈ children, child.IsNamed := by
        obtain ⟨-, -, hchildren⟩ := h
        exact hchildren
      rcases canonical_cases form ⟨tag, attributes, children⟩ with ⟨hempty, htext⟩ | htext
      · rw [htext]
        exact .childless .nil hempty htag hrest
      · have hcontent := writes_canonicalAll form children hchildren
        have hwrites := Writes.element .nil htag hcontent hrest
        rw [htext]
        simpa using hwrites

/-- The canonical writing of some elements writes these elements. -/
theorem writes_canonicalAll (form : LeafForm) : ∀ nodes : List Node,
    (∀ node ∈ nodes, node.IsNamed) → Writes nodes (canonicalAll form nodes)
  | [], _ => .none .nil
  | node :: nodes, h => by
      rw [List.forall_mem_cons] at h
      exact writes_canonical_append form node h.1 (writes_canonicalAll form nodes h.2)

end

end ClassDiagram.Xml
