import ClassDiagram.Xml.Node
import Mathlib.Data.List.Forall2

/-!
# Trees that differ in their layout only

Two elements are `Similar` if they have the same tag, the same attributes by name and,
tag by tag, similar children in the same order.  What they may differ in is the order
of their attributes (`similar_withAttribute_comm`) and how children of different tags
stand among each other (`similar_withChild_comm`), at every depth of the tree.

Similarity is an equivalence (`equivalence_similar`) that adding attributes and
children respects.  The lemmas after it say that a reader who asks for attributes by
name and for children by tag cannot tell similar elements apart.
-/

namespace ClassDiagram.Xml.Node

/-- The elements differ at most in the order of attributes and of children with different tags. -/
inductive Similar : Node → Node → Prop where
  | mk {node other : Node} (tag : node.tag = other.tag)
      (attribute? : ∀ name, node.attribute? name = other.attribute? name)
      (children : ∀ tag, List.Forall₂ Similar (node.childrenTagged tag) (other.childrenTagged tag)) :
      Similar node other

/-! ## Similarity is an equivalence -/

theorem sizeOf_lt_of_mem_childrenTagged {node child : Node} {tag : String}
    (h : child ∈ node.childrenTagged tag) : sizeOf child < sizeOf node := by
  obtain ⟨tag, attributes, children⟩ := node
  have hmem : child ∈ children := (List.mem_filter.1 h).1
  have hlt := List.sizeOf_lt_of_mem hmem
  simp only [mk.sizeOf_spec]
  omega

theorem Similar.refl (node : Node) : Similar node node :=
  .mk rfl (fun _ => rfl) fun _ => List.forall₂_same.2 fun child hchild =>
    have := sizeOf_lt_of_mem_childrenTagged hchild
    refl child
termination_by node

theorem Similar.symm {node other : Node} (h : Similar node other) : Similar other node := by
  -- Along with the elements, lists of children are turned round.
  induction h using Similar.rec
    (motive_2 := fun nodes others _ => List.Forall₂ Similar others nodes) with
  | mk tag attribute? _ ih => exact .mk tag.symm (fun name => (attribute? name).symm) ih
  | nil => exact .nil
  | cons _ _ ihchild ihrest => exact .cons ihchild ihrest

theorem Similar.trans {node other third : Node} (h : Similar node other)
    (h' : Similar other third) : Similar node third := by
  induction h using Similar.rec (motive_2 := fun nodes others _ =>
    ∀ thirds, List.Forall₂ Similar others thirds → List.Forall₂ Similar nodes thirds)
    generalizing third with
  | mk tag attribute? _ ih =>
      obtain ⟨tag', attribute?', children'⟩ := h'
      exact .mk (tag.trans tag') (fun name => (attribute? name).trans (attribute?' name))
        fun tag => ih tag _ (children' tag)
  | nil thirds hthirds => exact hthirds
  | cons _ _ ihchild ihrest thirds hthirds =>
      cases hthirds with
      | cons hchild hrest => exact .cons (ihchild hchild) (ihrest _ hrest)

theorem equivalence_similar : Equivalence Similar := ⟨.refl, .symm, .trans⟩

/-! ## Building similar elements -/

theorem attribute?_withAttribute (node : Node) (name value key : String) :
    (node.withAttribute name value).attribute? key =
      if key = name then some value else node.attribute? key :=
  OrderedMap.get?_insert _ _ _ _

theorem Similar.withAttribute {node other : Node} (h : Similar node other) (name value : String) :
    Similar (node.withAttribute name value) (other.withAttribute name value) := by
  obtain ⟨tag, attribute?, children⟩ := h
  refine .mk tag (fun key => ?_) children
  rw [attribute?_withAttribute, attribute?_withAttribute, attribute?]

/-- The order of two attributes is free. -/
theorem similar_withAttribute_comm (node : Node) {name other : String} (h : name ≠ other)
    (value value' : String) :
    Similar ((node.withAttribute name value).withAttribute other value')
      ((node.withAttribute other value').withAttribute name value) := by
  refine .mk rfl (fun key => ?_) fun _ => List.forall₂_same.2 fun child _ => .refl child
  simp only [attribute?_withAttribute]
  by_cases hkey : key = name
  · rw [if_neg (hkey ▸ h), if_pos hkey, if_pos hkey]
  · rw [if_neg hkey, if_neg hkey]

theorem Similar.withChild {node other child child' : Node} (h : Similar node other)
    (hchild : Similar child child') : Similar (node.withChild child) (other.withChild child') := by
  obtain ⟨tag, attribute?, children⟩ := h
  have htag : child.tag = child'.tag := by cases hchild; assumption
  refine .mk tag attribute? fun tag => ?_
  rw [childrenTagged_withChild, childrenTagged_withChild, htag]
  refine List.rel_append (children tag) ?_
  split
  · exact .cons hchild .nil
  · exact .nil

/-- Of two children with different tags either may come first. -/
theorem similar_withChild_comm (node : Node) {child child' : Node} (h : child.tag ≠ child'.tag) :
    Similar ((node.withChild child).withChild child') ((node.withChild child').withChild child) := by
  refine .mk rfl (fun _ => rfl) fun tag => ?_
  have hsame : ((node.withChild child).withChild child').childrenTagged tag =
      ((node.withChild child').withChild child).childrenTagged tag := by
    simp only [childrenTagged_withChild, List.append_assoc]
    congr 1
    by_cases htag : child.tag = tag
    · have htag' : child'.tag ≠ tag := fun heq => h (htag.trans heq.symm)
      simp [htag, htag']
    · simp [htag]
  rw [hsame]
  exact List.forall₂_same.2 fun other _ => .refl other

/-! ## Reading similar elements -/

namespace Similar

variable {node other : Node} (h : Similar node other)

include h

theorem tag_eq : node.tag = other.tag := by
  cases h
  assumption

theorem attribute?_eq (name : String) : node.attribute? name = other.attribute? name := by
  obtain ⟨-, hattribute, -⟩ := h
  exact hattribute name

theorem text?_eq (name : String) : node.text? name = other.text? name := by
  rw [text?, text?, h.attribute?_eq]

theorem childrenTagged (tag : String) :
    List.Forall₂ Similar (node.childrenTagged tag) (other.childrenTagged tag) := by
  obtain ⟨-, -, hchildren⟩ := h
  exact hchildren tag

/-- What is read from a child in the same place is the same. -/
theorem bind_childTagged? {α : Type} {read : Node → Option α}
    (hread : ∀ {child child' : Node}, Similar child child' → read child = read child')
    (tag : String) (index : Nat) :
    (node.childTagged? tag index).bind read = (other.childTagged? tag index).bind read := by
  have hlists : ∀ {nodes others : List Node}, List.Forall₂ Similar nodes others →
      ∀ index : Nat, nodes[index]?.bind read = others[index]?.bind read := by
    intro nodes others hchildren
    induction hchildren with
    | nil => exact fun _ => rfl
    | cons hchild _ ih =>
        intro index
        cases index with
        | zero => exact hread hchild
        | succ index => exact ih index
  exact hlists (h.childrenTagged tag) index

end Similar

end ClassDiagram.Xml.Node
