import ClassDiagram.Proofs.Grammar
import Mathlib.Data.List.Induction

/-!
# Sorting elements by kind

The buckets `Partition` the elements that were gone over: each holds the positions of its
own kind, in increasing order, and together they hold every position of a kind that is read,
and no other.  One more element keeps the partition (`Partition.note`), so that all elements
are partitioned in the end (`partition_classify`).

Positions serve only to name elements.  Each leads to an element, and to select the
positions of one kind and then to look the elements up is to filter the elements
(`select_eq_filter`).
-/

namespace ClassDiagram

open Grammar

/-! ## The kind of an element -/

theorem ElementKind.ofTypeName?_eq_some_iff {word : String} {kind : ElementKind} :
    ofTypeName? word = some kind ↔ word ∈ kindWords kind := by
  unfold ofTypeName?
  rcases kind with _ | _ | (_ | _) | _ <;> grind [kindWords]

/-- The kind that is found is the one that the element says. -/
theorem ElementKind.ofNode?_eq_some_iff {node : Xml.Node} {kind : ElementKind} :
    ofNode? node = some kind ↔ HasKind node kind := by
  unfold ofNode? HasKind DeclaredAs typeAttribute otherTypeAttribute
  cases node.attribute? "xsi:type" with
  | some word => simp [ofTypeName?_eq_some_iff]
  | none => simp [Option.bind_eq_some_iff, ofTypeName?_eq_some_iff, and_comm]

theorem ElementKind.isSome_ofNode?_iff {node : Xml.Node} :
    (ofNode? node).isSome ↔ Recognised node := by
  simp only [Option.isSome_iff_exists, ofNode?_eq_some_iff, Recognised]

/-- An element is of one kind. -/
theorem Grammar.HasKind.unique {node : Xml.Node} {kind kind' : ElementKind}
    (h : HasKind node kind) (h' : HasKind node kind') : kind = kind' := by
  rw [← ElementKind.ofNode?_eq_some_iff] at h h'
  exact Option.some.inj (h.symm.trans h')

namespace Buckets

/-! ## One more position -/

theorem ofKind_push (buckets : Buckets) (kind kind' : ElementKind) (index : Nat) :
    (buckets.push kind index).ofKind kind' =
      buckets.ofKind kind' ++ if kind = kind' then [index] else [] := by
  rcases kind with _ | _ | (_ | _) | _ <;> rcases kind' with _ | _ | (_ | _) | _ <;>
    simp [push, ofKind]

theorem length_push (buckets : Buckets) (kind : ElementKind) (index : Nat) :
    (buckets.push kind index).length = buckets.length + 1 := by
  rcases kind with _ | _ | (_ | _) | _ <;> simp [push, length] <;> omega

/-- A position goes to the bucket of its kind and to no other. -/
theorem ofKind_note (buckets : Buckets) (node : Xml.Node) (index : Nat) (kind : ElementKind) :
    (buckets.note node index).ofKind kind =
      buckets.ofKind kind ++ if HasKind node kind then [index] else [] := by
  simp only [← ElementKind.ofNode?_eq_some_iff]
  cases hkind : ElementKind.ofNode? node with
  | none => simp [note, hkind]
  | some found => simp [note, hkind, ofKind_push]

theorem length_note (buckets : Buckets) (node : Xml.Node) (index : Nat) :
    (buckets.note node index).length =
      buckets.length + if Recognised node then 1 else 0 := by
  simp only [← ElementKind.isSome_ofNode?_iff]
  cases hkind : ElementKind.ofNode? node with
  | none => simp [note, hkind]
  | some found => simp [note, hkind, length_push]

/-- The last element is noted after the others, at the position that follows theirs. -/
theorem classify_concat (elements : List Xml.Node) (node : Xml.Node) :
    classify (elements ++ [node]) = (classify elements).note node elements.length := by
  rw [classify, List.zipIdx_append, List.foldl_append, Nat.zero_add]
  rfl

/-! ## Partitions -/

/-- The buckets hold the positions of the elements that are read, each in the bucket of its
kind. -/
structure Partition (elements : List Xml.Node) (buckets : Buckets) : Prop where
  /-- The order is that of the elements, and no position comes twice. -/
  increasing : ∀ kind, (buckets.ofKind kind).Pairwise (· < ·)
  mem_iff : ∀ kind index, index ∈ buckets.ofKind kind ↔
    ∃ node, elements[index]? = some node ∧ HasKind node kind
  /-- Each position leads to its element. -/
  lookup : ∀ kind, (buckets.ofKind kind).map (elements[·]?) =
    (elements.filter (HasKind · kind)).map some
  length : buckets.length = (elements.filter (Recognised ·)).length

variable {elements : List Xml.Node} {buckets : Buckets}

theorem partition_nil : Partition [] {} where
  increasing := by rintro (_ | _ | (_ | _) | _) <;> exact .nil
  mem_iff := by rintro (_ | _ | (_ | _) | _) index <;> simp [ofKind]
  lookup := by rintro (_ | _ | (_ | _) | _) <;> rfl
  length := rfl

/-- A position in a bucket is that of an element. -/
theorem Partition.lt_length (h : Partition elements buckets) {kind : ElementKind} {index : Nat}
    (hindex : index ∈ buckets.ofKind kind) : index < elements.length := by
  obtain ⟨node, hnode, -⟩ := (h.mem_iff kind index).1 hindex
  exact (List.getElem?_eq_some_iff.1 hnode).1

/-- No position is in two buckets. -/
theorem Partition.disjoint (h : Partition elements buckets) {kind kind' : ElementKind}
    (hne : kind ≠ kind') : (buckets.ofKind kind).Disjoint (buckets.ofKind kind') := by
  intro index hindex hindex'
  obtain ⟨node, hnode, hkind⟩ := (h.mem_iff kind index).1 hindex
  obtain ⟨node', hnode', hkind'⟩ := (h.mem_iff kind' index).1 hindex'
  obtain rfl : node = node' := Option.some.inj (hnode.symm.trans hnode')
  exact hne (hkind.unique hkind')

/-- The positions in the buckets are those of the elements that are read. -/
theorem Partition.exists_mem_iff (h : Partition elements buckets) (index : Nat) :
    (∃ kind, index ∈ buckets.ofKind kind) ↔
      ∃ node, elements[index]? = some node ∧ Recognised node := by
  simp only [h.mem_iff, Recognised]
  constructor
  · rintro ⟨kind, node, hnode, hkind⟩
    exact ⟨node, hnode, kind, hkind⟩
  · rintro ⟨node, hnode, kind, hkind⟩
    exact ⟨kind, node, hnode, hkind⟩

/-- Noting one more element keeps the partition. -/
theorem Partition.note (h : Partition elements buckets) (node : Xml.Node) :
    Partition (elements ++ [node]) (buckets.note node elements.length) where
  increasing := by
    intro kind
    rw [ofKind_note, List.pairwise_append]
    refine ⟨h.increasing kind, ?_, fun index hindex last hlast => ?_⟩
    · split <;> simp
    · -- The new position lies behind all that were noted.
      have hlt := h.lt_length hindex
      split at hlast
      · rwa [List.mem_singleton.1 hlast]
      · cases hlast
  mem_iff := by
    intro kind index
    rw [ofKind_note, List.mem_append, h.mem_iff, List.mem_ite_nil_right, List.mem_singleton]
    constructor
    · rintro (⟨found, hfound, hkind⟩ | ⟨hkind, rfl⟩)
      · have hlt := (List.getElem?_eq_some_iff.1 hfound).1
        exact ⟨found, (List.getElem?_append_left hlt).trans hfound, hkind⟩
      · exact ⟨node, List.getElem?_concat_length, hkind⟩
    · rintro ⟨found, hfound, hkind⟩
      by_cases hlt : index < elements.length
      · exact .inl ⟨found, (List.getElem?_append_left hlt).symm.trans hfound, hkind⟩
      · have hlast : index = elements.length := by
          have := (List.getElem?_eq_some_iff.1 hfound).1
          simp only [List.length_append, List.length_singleton] at this
          omega
        subst hlast
        rw [List.getElem?_concat_length] at hfound
        exact .inr ⟨Option.some.inj hfound ▸ hkind, rfl⟩
  lookup := by
    intro kind
    have hbefore : (buckets.ofKind kind).map ((elements ++ [node])[·]?) =
        (buckets.ofKind kind).map (elements[·]?) :=
      List.map_congr_left fun index hindex => List.getElem?_append_left (h.lt_length hindex)
    rw [ofKind_note, List.map_append, hbefore, h.lookup, List.filter_append, List.map_append]
    by_cases hkind : HasKind node kind <;> simp [hkind]
  length := by
    rw [length_note, h.length, List.filter_append, List.length_append]
    by_cases hkind : Recognised node <;> simp [hkind]

/-- Classifying the elements partitions them. -/
theorem partition_classify (elements : List Xml.Node) : Partition elements (classify elements) := by
  induction elements using List.reverseRecOn with
  | nil => exact partition_nil
  | append_singleton elements node ih =>
      rw [classify_concat]
      exact ih.note node

end Buckets

namespace Packages

/-! ## Selecting elements -/

/-- The elements selected are those of the kind, in document order. -/
theorem select_eq_filter (packages : Packages) (kind : ElementKind) :
    packages.select kind =
      packages.elements.filter fun node => HasKind node kind := by
  have hlookup := (Buckets.partition_classify packages.elements).lookup kind
  have hselect : packages.select kind =
      ((packages.indices kind).map (packages.elements[·]?)).filterMap id := by
    rw [List.filterMap_map]
    rfl
  rw [hselect, indices, hlookup, List.filterMap_map]
  exact List.filterMap_some

theorem mem_select {packages : Packages} {kind : ElementKind} {node : Xml.Node} :
    node ∈ packages.select kind ↔
      node ∈ packages.elements ∧ HasKind node kind := by
  rw [select_eq_filter, List.mem_filter, decide_eq_true_eq]

end Packages

/-- The positions of some elements are sorted into buckets by kind, in order and each once, and
their number is that of the elements that are read.  In a model every position so found leads to
an element, and the elements selected are the packaged elements of the kind in document order. -/
theorem classify_partitions :
    (∀ elements : List Xml.Node,
      (∀ kind, ((Buckets.classify elements).ofKind kind).Pairwise (· < ·)) ∧
      (∀ kind kind', kind ≠ kind' → ((Buckets.classify elements).ofKind kind).Disjoint
        ((Buckets.classify elements).ofKind kind')) ∧
      (∀ kind index, index ∈ (Buckets.classify elements).ofKind kind ↔
        ∃ node, elements[index]? = some node ∧ HasKind node kind) ∧
      (∀ index, (∃ kind, index ∈ (Buckets.classify elements).ofKind kind) ↔
        ∃ node, elements[index]? = some node ∧ Recognised node) ∧
      (Buckets.classify elements).length =
        (elements.filter (Recognised ·)).length) ∧
    ∀ (model : Xml.Node) (kind : ElementKind),
      (∀ index ∈ (Packages.ofModel model).indices kind,
        index < (Packages.ofModel model).elements.length) ∧
      (Packages.ofModel model).select kind = model.children.filter fun node =>
        node.tag = Packages.elementTag ∧ HasKind node kind := by
  constructor
  · intro elements
    have h := Buckets.partition_classify elements
    exact ⟨h.increasing, fun _ _ hne => h.disjoint hne, h.mem_iff, h.exists_mem_iff, h.length⟩
  · intro model kind
    refine ⟨fun index hindex => ?_, ?_⟩
    · exact (Buckets.partition_classify (Packages.ofModel model).elements).lt_length hindex
    · rw [Packages.select_eq_filter]
      simp [Packages.ofModel, Xml.Node.childrenTagged, List.filter_filter, Bool.and_comm]

end ClassDiagram
