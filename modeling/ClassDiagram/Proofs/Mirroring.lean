import ClassDiagram.Proofs.Membership

/-!
# Associations seen from their other ends

An association owns two ends, and what is said at one end is kept for the other: the first
end is the target and names the field of the source.  If an element exchanges its two ends,
wherever they stand among its children, it declares the association `mirrored`, and it is
refused if the association was (`readAssociation_of_exchangesEnds`).  An element with another
number of ends declares no association.

Nothing but the ends changes hands, so an exchange is followed through the children by their
tags (`ExchangesEnds.childrenTagged_eq` and `ExchangesEnds.ends`).
-/

namespace ClassDiagram

open Grammar

/-! ## Mirrored associations -/

/-- The association with its source and its target exchanged, and all that belongs to them. -/
def Association.mirrored (association : Association) : Association where
  source := association.target
  target := association.source
  fieldInSource := association.fieldInTarget
  fieldInTarget := association.fieldInSource
  cardinality := association.cardinality.reversed
  commentInSource := association.commentInTarget
  commentInTarget := association.commentInSource

theorem Cardinality.reversed_reversed (cardinality : Cardinality) :
    cardinality.reversed.reversed = cardinality := by
  cases cardinality <;> rfl

theorem Association.mirrored_mirrored (association : Association) :
    association.mirrored.mirrored = association := by
  simp only [mirrored, Cardinality.reversed_reversed]

/-! ## Exchanging the ends of an element -/

/-- The first element has two ends, and the second is the same element with the two exchanged. -/
inductive ExchangesEnds : Xml.Node → Xml.Node → Prop
  | exchange (tag : String) (attributes : OrderedMap String String)
      (before : List Xml.Node) (first : Xml.Node) (between : List Xml.Node) (second : Xml.Node)
      (after : List Xml.Node) (first_tag : first.tag = "ownedEnd")
      (second_tag : second.tag = "ownedEnd")
      (others : ∀ child ∈ before ++ between ++ after, child.tag ≠ "ownedEnd") :
      ExchangesEnds ⟨tag, attributes, before ++ first :: between ++ second :: after⟩
        ⟨tag, attributes, before ++ second :: between ++ first :: after⟩

namespace ExchangesEnds

variable {node node' : Xml.Node}

/-- Exchanged ends are put back by exchanging them. -/
theorem symm (h : ExchangesEnds node node') : ExchangesEnds node' node := by
  cases h with
  | exchange tag attributes before first between second after hfirst hsecond hothers =>
      exact .exchange tag attributes before second between first after hsecond hfirst hothers

/-- All attributes stay. -/
theorem text?_eq (h : ExchangesEnds node node') (key : String) :
    node'.text? key = node.text? key := by
  cases h
  rfl

/-- Children with another tag stay in their order. -/
theorem childrenTagged_eq (h : ExchangesEnds node node') {tag : String}
    (htag : tag ≠ "ownedEnd") : node'.childrenTagged tag = node.childrenTagged tag := by
  cases h with
  | exchange _ _ before first between second after hfirst hsecond _ =>
      have hfirst' : ¬first.tag = tag := fun heq => htag (heq.symm.trans hfirst)
      have hsecond' : ¬second.tag = tag := fun heq => htag (heq.symm.trans hsecond)
      simp [Xml.Node.childrenTagged, hfirst', hsecond']

/-- The ends are two, and they change places. -/
theorem ends (h : ExchangesEnds node node') : ∃ first second,
    node.childrenTagged "ownedEnd" = [first, second] ∧
      node'.childrenTagged "ownedEnd" = [second, first] := by
  cases h with
  | exchange _ _ before first between second after hfirst hsecond hothers =>
      have hnone : ∀ nodes : List Xml.Node, (∀ child ∈ nodes, child.tag ≠ "ownedEnd") →
          nodes.filter (·.tag = "ownedEnd") = [] := fun nodes hnodes =>
        List.filter_eq_nil_iff.2 fun child hchild => by simpa using hnodes child hchild
      have hbefore := hnone before fun child hchild => hothers child (by simp [hchild])
      have hbetween := hnone between fun child hchild => hothers child (by simp [hchild])
      have hafter := hnone after fun child hchild => hothers child (by simp [hchild])
      refine ⟨first, second, ?_, ?_⟩
      · simp [Xml.Node.childrenTagged, hfirst, hsecond, hbefore, hbetween, hafter]
      · simp [Xml.Node.childrenTagged, hfirst, hsecond, hbefore, hbetween, hafter]

theorem comment?_eq (h : ExchangesEnds node node') : comment? node' = comment? node := by
  have htag : "eAnnotations" ≠ "ownedEnd" := by decide
  rw [comment?, comment?, Xml.Node.childTagged?, Xml.Node.childTagged?, h.childrenTagged_eq htag]

end ExchangesEnds

/-- An element with two ends can exchange them. -/
theorem exists_exchangesEnds {node : Xml.Node} (h : (node.childrenTagged "ownedEnd").length = 2) :
    ∃ node', ExchangesEnds node node' := by
  obtain ⟨tag, attributes, children⟩ := node
  obtain ⟨first, second, hends⟩ := List.length_eq_two.1 h
  rw [Xml.Node.childrenTagged, List.filter_eq_cons_iff] at hends
  obtain ⟨before, rest, rfl, hbefore, hfirst, hends⟩ := hends
  obtain ⟨between, after, rfl, hbetween, hsecond, hafter⟩ := List.filter_eq_cons_iff.1 hends
  rw [List.filter_eq_nil_iff] at hafter
  simp only [decide_eq_true_eq] at hbefore hfirst hbetween hsecond hafter
  have hchildren : before ++ first :: (between ++ second :: after) =
      before ++ first :: between ++ second :: after := by
    rw [List.append_assoc, List.cons_append]
  rw [hchildren]
  refine ⟨_, .exchange tag attributes before first between second after hfirst hsecond ?_⟩
  simp only [List.mem_append]
  rintro child ((hchild | hchild) | hchild)
  · exact hbefore child hchild
  · exact hbetween child hchild
  · exact hafter child hchild

/-! ## Reading what is exchanged -/

/-- Joining two ends the other way round gives the mirrored association. -/
theorem joinEnds_mirrored {id : ElementId} {comment : String} {first second : Xml.Node}
    {association : Association} (h : joinEnds id comment first second = .ok association) :
    joinEnds id comment second first = .ok association.mirrored ∧
      association.commentInSource = comment ∧ association.commentInTarget = comment := by
  obtain ⟨sourceType, hsource, h⟩ := bind_eq_ok.1 h
  obtain ⟨targetType, htarget, h⟩ := bind_eq_ok.1 h
  obtain rfl := Except.ok.inj h
  -- The side of an end is told only where the end has no type.
  have hside : ∀ {side side' node type}, endType side id node = .ok type →
      endType side' id node = .ok type := by
    intro side side' node type htype
    unfold endType at htype ⊢
    split at htype
    · exact htype
    · cases htype
  refine ⟨?_, rfl, rfl⟩
  rw [joinEnds, hside hsource, hside htarget]
  simp only [Association.mirrored, ← Cardinality.ofEnds_swap]
  rfl

/-- An element declares the association that its two ends join. -/
theorem readAssociation_eq_ok_iff {node first second : Xml.Node}
    (hends : node.childrenTagged "ownedEnd" = [first, second]) {id : ElementId}
    {association : Association} :
    readAssociation node = .ok (id, association) ↔ node.text? idAttribute = some id ∧
      joinEnds id ((comment? node).getD "") first second = .ok association := by
  unfold readAssociation
  rw [hends, bind_eq_ok]
  constructor
  · rintro ⟨id', hid, h⟩
    obtain ⟨association', hjoin, h⟩ := bind_eq_ok.1 h
    obtain ⟨rfl, rfl⟩ := Prod.mk.inj (Except.ok.inj h)
    exact ⟨elementId_eq_ok_iff.1 hid, hjoin⟩
  · rintro ⟨hid, hjoin⟩
    exact ⟨id, elementId_eq_ok_iff.2 hid, bind_eq_ok.2 ⟨association, hjoin, rfl⟩⟩

/-- What the second element declares is the mirrored association that the first one declares, under
the same id, and there is one text for both comments. -/
structure Mirrors (node node' : Xml.Node) : Prop where
  accepted : (∃ result, readAssociation node = .ok result) ↔
    ∃ result, readAssociation node' = .ok result
  mirrored : ∀ id association, readAssociation node = .ok (id, association) ↔
    readAssociation node' = .ok (id, association.mirrored)
  comments : ∀ id association, readAssociation node = .ok (id, association) →
    association.commentInSource = association.commentInTarget

theorem readAssociation_mirrored {node node' : Xml.Node} (h : ExchangesEnds node node')
    {id : ElementId} {association : Association}
    (hread : readAssociation node = .ok (id, association)) :
    readAssociation node' = .ok (id, association.mirrored) ∧
      association.commentInSource = association.commentInTarget := by
  obtain ⟨first, second, hends, hends'⟩ := h.ends
  obtain ⟨hid, hjoin⟩ := (readAssociation_eq_ok_iff hends).1 hread
  obtain ⟨hmirrored, hsource, htarget⟩ := joinEnds_mirrored hjoin
  refine ⟨(readAssociation_eq_ok_iff hends').2 ⟨h.text?_eq idAttribute ▸ hid, ?_⟩,
    hsource.trans htarget.symm⟩
  rw [h.comment?_eq]
  exact hmirrored

/-- Whatever else stands between them, two ends can be exchanged, and then the association is
mirrored.  With any other number of ends there is no association. -/
theorem readAssociation_of_exchangesEnds (node : Xml.Node) :
    ((node.childrenTagged "ownedEnd").length = 2 →
      (∃ node', ExchangesEnds node node') ∧
        ∀ node', ExchangesEnds node node' → Mirrors node node') ∧
    ((node.childrenTagged "ownedEnd").length ≠ 2 →
      ∃ fault, readAssociation node = .error fault) := by
  constructor
  · intro hcount
    refine ⟨exists_exchangesEnds hcount, fun node' h => ⟨⟨?_, ?_⟩, ?_, ?_⟩⟩
    · rintro ⟨⟨id, association⟩, hread⟩
      exact ⟨_, (readAssociation_mirrored h hread).1⟩
    · rintro ⟨⟨id, association⟩, hread⟩
      exact ⟨_, (readAssociation_mirrored h.symm hread).1⟩
    · intro id association
      refine ⟨fun hread => (readAssociation_mirrored h hread).1, fun hread => ?_⟩
      rw [← association.mirrored_mirrored]
      exact (readAssociation_mirrored h.symm hread).1
    · exact fun _ _ hread => (readAssociation_mirrored h hread).2
  · intro hcount
    cases hread : readAssociation node with
    | error fault => exact ⟨fault, rfl⟩
    | ok result => exact absurd (ok_readAssociation.1 ⟨result, hread⟩).2.1 hcount

/-- An association whose ends have different types, names and upper bounds, with a comment between
them. -/
def ordersOfCustomer : Xml.Node :=
  let detail (key value : String) :=
    ((Xml.Node.ofTag "details").withAttribute "key" key).withAttribute "value" value
  let comment := ((Xml.Node.ofTag "eAnnotations").withChild (detail "id" "x")).withChild
    (detail commentKey "Who ordered.")
  let associationEnd (name type upper : String) :=
    (((Xml.Node.ofTag "ownedEnd").withAttribute "name" name).withAttribute "type" type).withChild
      ((Xml.Node.ofTag "upperValue").withAttribute "value" upper)
  (((elementNamed "uml:Association" "a" "orders").withChild
    (associationEnd "orders" "o" "*")).withChild comment).withChild
      (associationEnd "customer" "c" "1")

/-- With its ends exchanged the association leads from many orders to one customer; without ends it
is none. -/
theorem readAssociation_of_exchangesEnds_orders :
    (∃ node', ExchangesEnds ordersOfCustomer node' ∧ readAssociation node' = .ok
      ("a", ⟨"o", "c", some "customer", some "orders", .manyToOne, "Who ordered.",
        "Who ordered."⟩)) ∧
    ∃ fault, readAssociation (elementNamed "uml:Association" "a" "orders") = .error fault := by
  have hread : readAssociation ordersOfCustomer = .ok
      ("a", ⟨"c", "o", some "orders", some "customer", .oneToMany, "Who ordered.",
        "Who ordered."⟩) := by
    decide +kernel
  obtain ⟨⟨node', hexchanged⟩, hmirrors⟩ :=
    (readAssociation_of_exchangesEnds ordersOfCustomer).1 (by decide +kernel)
  exact ⟨⟨node', hexchanged, ((hmirrors node' hexchanged).mirrored _ _).1 hread⟩,
    (readAssociation_of_exchangesEnds _).2 (by decide +kernel)⟩

end ClassDiagram
