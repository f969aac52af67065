import ClassDiagram.Proofs.Acceptance
import ClassDiagram.Proofs.Edits

/-!
# Parameters and results

The parameters of an operation are told apart by two marks: one that is named
`returnParameter`, or has the direction `return`, is a result (`IsReturn`).  The others are
kept in order, each with its type and with its name or, if it has none, its position among
all parameters; of the results only the type of the last one is kept (`Keeps`).

A position counts results too, so that an unnamed parameter is called after the place where
it stands.  Parameters with names of their own do not depend on their places: wherever the
results of an operation are moved, and whatever they are replaced by, they are kept as they
are (`parameters_of_readOperation`).

The proof goes along the list of parameters once (`plays_of_readOperation`); the two kinds of
roles are then taken out of it by filtering both sides alike.
-/

namespace ClassDiagram

open Grammar

/-! ## What parameters say of themselves -/

/-- The parameter is a result of its operation. -/
def IsReturn (node : Xml.Node) : Prop :=
  node.attribute? "name" = some "returnParameter" ∨ node.attribute? "direction" = some "return"

instance (node : Xml.Node) : Decidable (IsReturn node) :=
  inferInstanceAs (Decidable (_ ∨ _))

/-- The type of a parameter is written in it or, if it is not, at the end of an address. -/
def HasTypeText (node : Xml.Node) (type : String) : Prop :=
  (node.attribute? "type" = some type ∧ type ≠ "") ∨
    ¬Filled node "type" ∧ ∃ address, Addressed node address ∧
      type = Text.upperFirst (typeNameOfAddress address)

/-- The parameter at a position has its own name with a small letter, or is called after the
position. -/
def HasName (node : Xml.Node) (index : Nat) (name : String) : Prop :=
  (∃ declared, Named node declared ∧ name = Text.lowerFirst declared) ∨
    ¬Filled node "name" ∧ name = s!"arg{index}"

/-- The parameter of an operation is that of an element at a position. -/
structure KeepsParameter (item : Xml.Node × Nat) (parameter : Parameter) : Prop where
  name : HasName item.1 item.2 parameter.name
  type : HasTypeText item.1 parameter.type

/-- The parameters of an element that are results. -/
def resultsOf (node : Xml.Node) : List Xml.Node :=
  (node.childrenTagged "ownedParameter").filter (IsReturn ·)

/-- The parameters of an element that are not results, with their positions among all. -/
def argumentsOf (node : Xml.Node) : List (Xml.Node × Nat) :=
  (node.childrenTagged "ownedParameter").zipIdx.filter (¬IsReturn ·.1)

/-- An operation has the parameters of an element that are not results, in order, and the type of
the last that is one. -/
structure Keeps (node : Xml.Node) (operation : Operation) : Prop where
  parameters : List.Forall₂ KeepsParameter (argumentsOf node) operation.parameters
  result : Option.Rel HasTypeText (resultsOf node).getLast? operation.returnType
  /-- No two parameters without names are called alike. -/
  unnamed : ∀ item parameter item' parameter',
    (item, parameter) ∈ (argumentsOf node).zip operation.parameters →
    (item', parameter') ∈ (argumentsOf node).zip operation.parameters →
    ¬Filled item.1 "name" → ¬Filled item'.1 "name" →
    parameter.name = parameter'.name → item = item'

/-! ## One parameter -/

theorem isResult_iff {node : Xml.Node} : isResult node = true ↔ IsReturn node := by
  have hname : resultName ≠ "" := by decide
  simp only [isResult, Bool.or_eq_true, decide_eq_true_eq, text?_eq_some_iff, hname, ne_eq,
    not_false_eq_true, and_true]
  rfl

theorem hasTypeText_of_parameterType {owner : Owner} {operation type : String} {node : Xml.Node}
    (h : parameterType owner operation node = .ok type) : HasTypeText node type := by
  unfold parameterType TypeSource.ofNode? at h
  cases htype : node.text? "type" with
  | some id =>
      rw [htype] at h
      obtain rfl := Except.ok.inj h
      exact .inl (text?_eq_some_iff.1 htype)
  | none =>
      cases haddress : (node.childTagged? "type" 0).bind (·.text? "href") with
      | none =>
          rw [htype, haddress] at h
          cases h
      | some address =>
          rw [htype, haddress] at h
          obtain rfl := Except.ok.inj h
          exact .inr ⟨text?_eq_none_iff.1 htype, address, addressed_iff.2 haddress, rfl⟩

theorem hasName_parameterName (index : Nat) (node : Xml.Node) :
    HasName node index (parameterName index node) := by
  unfold parameterName
  cases hname : node.text? "name" with
  | some name => exact .inl ⟨name, text?_eq_some_iff.1 hname, rfl⟩
  | none => exact .inr ⟨text?_eq_none_iff.1 hname, rfl⟩

/-- What a parameter stands for, said of its element. -/
def Plays (item : Xml.Node × Nat) : ParameterRole → Prop
  | .result type => IsReturn item.1 ∧ HasTypeText item.1 type
  | .argument parameter => ¬IsReturn item.1 ∧ KeepsParameter item parameter

theorem plays_of_parameterRole {owner : Owner} {operation : String} {item : Xml.Node × Nat}
    {role : ParameterRole} (h : parameterRole owner operation item.1 item.2 = .ok role) :
    Plays item role := by
  obtain ⟨type, htype, h⟩ := bind_eq_ok.1 h
  obtain rfl := Except.ok.inj h
  have htext := hasTypeText_of_parameterType htype
  by_cases hreturn : IsReturn item.1
  · rw [if_pos (isResult_iff.2 hreturn)]
    exact ⟨hreturn, htext⟩
  · rw [if_neg (mt isResult_iff.1 hreturn)]
    exact ⟨hreturn, hasName_parameterName item.2 item.1, htext⟩

/-! ## All parameters -/

/-- Every parameter of an operation that is read plays its role. -/
theorem plays_of_readOperation {owner : Owner} {name : String} {node : Xml.Node} {id : ElementId}
    {operation : Operation} (h : readOperation owner name node = .ok (id, operation)) :
    ∃ roles, List.Forall₂ Plays (node.childrenTagged "ownedParameter").zipIdx roles ∧
      operation.parameters = roles.filterMap (·.argument?) ∧
      operation.returnType = (roles.filterMap (·.result?)).getLast? := by
  obtain ⟨roles, hroles, h⟩ := bind_eq_ok.1 h
  obtain ⟨_, -, h⟩ := bind_eq_ok.1 h
  obtain ⟨-, rfl⟩ := Prod.mk.inj (Except.ok.inj h)
  exact ⟨roles, (forall₂_of_mapM_eq_ok hroles).imp fun _ _ => plays_of_parameterRole, rfl, rfl⟩

/-- The arguments among some roles are played by the parameters that are no results. -/
theorem forall₂_arguments {items : List (Xml.Node × Nat)} {roles : List ParameterRole}
    (h : List.Forall₂ Plays items roles) :
    List.Forall₂ KeepsParameter (items.filter (¬IsReturn ·.1))
      (roles.filterMap (·.argument?)) := by
  induction h with
  | nil => exact .nil
  | @cons item role items roles hplays _ ih =>
      cases role with
      | result type => simpa [hplays.1, ParameterRole.argument?] using ih
      | argument parameter =>
          rw [List.filter_cons_of_pos (by simpa using hplays.1)]
          exact .cons hplays.2 ih

/-- The results among some roles are played by the parameters that are results. -/
theorem forall₂_results {items : List (Xml.Node × Nat)} {roles : List ParameterRole}
    (h : List.Forall₂ Plays items roles) :
    List.Forall₂ HasTypeText ((items.map Prod.fst).filter (IsReturn ·))
      (roles.filterMap (·.result?)) := by
  induction h with
  | nil => exact .nil
  | @cons item role items roles hplays _ ih =>
      cases role with
      | result type =>
          rw [List.map_cons, List.filter_cons_of_pos (by simpa using hplays.1)]
          exact .cons hplays.2 ih
      | argument parameter => simpa [hplays.1, ParameterRole.result?] using ih

theorem rel_getLast?_of_forall₂ {α β : Type} {related : α → β → Prop} {items : List α}
    {others : List β} (h : List.Forall₂ related items others) :
    Option.Rel related items.getLast? others.getLast? := by
  rw [List.getLast?_eq_head?_reverse, List.getLast?_eq_head?_reverse]
  generalize hitems : items.reverse = front, hothers : others.reverse = front'
  have hreverse : List.Forall₂ related front front' := hitems ▸ hothers ▸ List.rel_reverse h
  cases hreverse with
  | nil => exact .none
  | cons hrelated _ => exact .some hrelated

/-! ## Names of positions -/

/-- Parameters that are called after their positions are called differently. -/
theorem position_inj {index other : Nat} (h : s!"arg{index}" = s!"arg{other}") :
    index = other := by
  have htext : "arg" ++ index.repr = "arg" ++ other.repr := h
  have hdigits := (String.append_right_inj "arg").1 htext
  rw [Nat.repr_eq_ofList_toDigits, Nat.repr_eq_ofList_toDigits, String.ofList_inj] at hdigits
  rw [← Nat.ofDigitChars_ten_toDigits (n := index), hdigits, Nat.ofDigitChars_ten_toDigits]

theorem HasName.eq_position {node : Xml.Node} {index : Nat} {name : String}
    (h : HasName node index name) (hunnamed : ¬Filled node "name") : name = s!"arg{index}" := by
  rcases h with ⟨declared, hdeclared, -⟩ | ⟨-, hname⟩
  · exact absurd ⟨declared, hdeclared⟩ hunnamed
  · exact hname

/-- A position belongs to one parameter only. -/
theorem eq_of_mem_argumentsOf {node : Xml.Node} {item item' : Xml.Node × Nat}
    (h : item ∈ argumentsOf node) (h' : item' ∈ argumentsOf node) (hindex : item.2 = item'.2) :
    item = item' := by
  have hitem := List.mem_zipIdx_iff_getElem?.1 (List.mem_filter.1 h).1
  have hitem' := List.mem_zipIdx_iff_getElem?.1 (List.mem_filter.1 h').1
  rw [hindex, hitem'] at hitem
  exact Prod.ext (Option.some.inj hitem).symm hindex

/-- An operation keeps what its element says of its parameters. -/
theorem keeps_of_readOperation {owner : Owner} {name : String} {node : Xml.Node} {id : ElementId}
    {operation : Operation} (h : readOperation owner name node = .ok (id, operation)) :
    Keeps node operation := by
  obtain ⟨roles, hplays, hparameters, hresult⟩ := plays_of_readOperation h
  have hkeeps : List.Forall₂ KeepsParameter (argumentsOf node) operation.parameters :=
    hparameters ▸ forall₂_arguments hplays
  refine ⟨hkeeps, ?_, ?_⟩
  · have hresults := forall₂_results hplays
    rw [List.zipIdx_map_fst] at hresults
    rw [hresult]
    exact rel_getLast?_of_forall₂ hresults
  · intro item parameter item' parameter' hitem hitem' hunnamed hunnamed' hname
    have hkept := (List.forall₂_iff_zip.1 hkeeps).2 hitem
    have hkept' := (List.forall₂_iff_zip.1 hkeeps).2 hitem'
    rw [hkept.name.eq_position hunnamed, hkept'.name.eq_position hunnamed'] at hname
    exact eq_of_mem_argumentsOf (List.of_mem_zip hitem).1 (List.of_mem_zip hitem').1
      (position_inj hname)

/-! ## Other results -/

/-- The second element is the first with one of its results at another place, or with another
result in its stead, or both. -/
inductive MovesResult : Xml.Node → Xml.Node → Prop
  | move (tag : String) (attributes : OrderedMap String String)
      (front back front' back' : List Xml.Node) (result result' : Xml.Node)
      (others : front ++ back = front' ++ back')
      (tag_eq : result.tag = "ownedParameter") (tag_eq' : result'.tag = "ownedParameter")
      (isReturn : IsReturn result) (isReturn' : IsReturn result') :
      MovesResult ⟨tag, attributes, front ++ result :: back⟩
        ⟨tag, attributes, front' ++ result' :: back'⟩

/-- The parameters that are no results stay in their order. -/
theorem MovesResult.filter_eq {node node' : Xml.Node} (h : MovesResult node node') :
    (node'.childrenTagged "ownedParameter").filter (¬IsReturn ·) =
      (node.childrenTagged "ownedParameter").filter (¬IsReturn ·) := by
  cases h with
  | move _ _ front back front' back' result result' hothers htag htag' hreturn hreturn' =>
      have hskip : ∀ {front back : List Xml.Node} {result : Xml.Node},
          result.tag = "ownedParameter" → IsReturn result →
          ((front ++ result :: back).filter (·.tag = "ownedParameter")).filter (¬IsReturn ·) =
            ((front ++ back).filter (·.tag = "ownedParameter")).filter (¬IsReturn ·) := by
        intro front back result htag hreturn
        simp [htag, hreturn]
      rw [Xml.Node.childrenTagged, Xml.Node.childrenTagged, hskip htag hreturn,
        hskip htag' hreturn', hothers]

theorem HasTypeText.eq {node : Xml.Node} {type type' : String} (h : HasTypeText node type)
    (h' : HasTypeText node type') : type = type' := by
  rcases h with ⟨htype, hne⟩ | ⟨hempty, address, haddress, rfl⟩
  · rcases h' with ⟨htype', -⟩ | ⟨hempty', -⟩
    · exact Option.some.inj (htype.symm.trans htype')
    · exact absurd ⟨type, htype, hne⟩ hempty'
  · rcases h' with ⟨htype', hne'⟩ | ⟨-, address', haddress', rfl⟩
    · exact absurd ⟨type', htype', hne'⟩ hempty
    · rw [addressed_iff] at haddress haddress'
      rw [Option.some.inj (haddress.symm.trans haddress')]

/-- A parameter with a name is kept in one way, wherever it stands. -/
theorem KeepsParameter.eq {node : Xml.Node} {index index' : Nat} {parameter parameter' : Parameter}
    (hnamed : Filled node "name") (h : KeepsParameter (node, index) parameter)
    (h' : KeepsParameter (node, index') parameter') : parameter = parameter' := by
  have hname : parameter.name = parameter'.name := by
    rcases h.name with ⟨declared, hdeclared, hname⟩ | ⟨hunnamed, -⟩
    · rcases h'.name with ⟨declared', hdeclared', hname'⟩ | ⟨hunnamed', -⟩
      · rw [hname, hname', Option.some.inj (hdeclared.1.symm.trans hdeclared'.1)]
      · exact absurd hnamed hunnamed'
    · exact absurd hnamed hunnamed
  have htype : parameter.type = parameter'.type := h.type.eq h'.type
  cases parameter
  cases parameter'
  rw [Parameter.mk.injEq]
  exact ⟨hname, htype⟩

/-- Parameters with names are kept alike if they are the same in order. -/
theorem parameters_eq_of_map_fst_eq {items items' : List (Xml.Node × Nat)}
    {parameters parameters' : List Parameter} (h : List.Forall₂ KeepsParameter items parameters)
    (h' : List.Forall₂ KeepsParameter items' parameters')
    (hsame : items.map Prod.fst = items'.map Prod.fst)
    (hnamed : ∀ node ∈ items.map Prod.fst, Filled node "name") : parameters = parameters' := by
  induction h generalizing items' parameters' with
  | nil =>
      rw [List.map_nil, eq_comm, List.map_eq_nil_iff] at hsame
      subst hsame
      cases h'
      rfl
  | @cons item parameter items parameters hkeeps _ ih =>
      cases h' with
      | nil => cases hsame
      | @cons item' parameter' items' parameters' hkeeps' hrest' =>
          obtain ⟨node, index⟩ := item
          obtain ⟨node', index'⟩ := item'
          obtain ⟨rfl, hrest⟩ := List.cons.inj hsame
          rw [List.map_cons, List.forall_mem_cons] at hnamed
          rw [hkeeps.eq hnamed.1 hkeeps', ih hrest' hrest hnamed.2]

theorem map_fst_argumentsOf (node : Xml.Node) :
    (argumentsOf node).map Prod.fst =
      (node.childrenTagged "ownedParameter").filter (¬IsReturn ·) := by
  conv => rhs; rw [← List.zipIdx_map_fst 0 (node.childrenTagged "ownedParameter"), List.filter_map]
  rfl

/-- The element is refused only for a result without a type, and else declares these parameters
under this id. -/
structure DeclaresParameters (owner : Owner) (name : String) (node : Xml.Node) (id : ElementId)
    (parameters : List Parameter) : Prop where
  accepted : (∃ result, readOperation owner name node = .ok result) ↔
    ∀ result ∈ resultsOf node, IsParameter result
  same : ∀ id' operation, readOperation owner name node = .ok (id', operation) →
    id' = id ∧ operation.parameters = parameters

theorem MovesResult.text?_eq {node node' : Xml.Node} (h : MovesResult node node') (key : String) :
    node'.text? key = node.text? key := by
  cases h
  rfl

/-- With a result moved or replaced, an operation is read if its results have types. -/
theorem MovesResult.ok_readOperation_iff {owner : Owner} {name : String} {node node' : Xml.Node}
    (h : MovesResult node node') (hread : ∃ result, readOperation owner name node = .ok result) :
    (∃ result, readOperation owner name node' = .ok result) ↔
      ∀ result ∈ resultsOf node', IsParameter result := by
  obtain ⟨hid, hparameters⟩ := ok_readOperation.1 hread
  have hid' : Filled node' idAttribute := by
    rw [filled_iff, h.text?_eq]
    exact filled_iff.1 hid
  rw [ok_readOperation, IsOperation, and_iff_right hid']
  constructor
  · intro hall result hresult
    exact hall result (List.mem_filter.1 hresult).1
  · intro hresults parameter hparameter
    by_cases hreturn : IsReturn parameter
    · exact hresults parameter (List.mem_filter.2 ⟨hparameter, decide_eq_true hreturn⟩)
    · -- A parameter that is no result was there before.
      have hkept : parameter ∈ (node'.childrenTagged "ownedParameter").filter (¬IsReturn ·) :=
        List.mem_filter.2 ⟨hparameter, decide_eq_true hreturn⟩
      rw [h.filter_eq] at hkept
      exact hparameters parameter (List.mem_filter.1 hkept).1

/-- An operation keeps what its element says of its parameters, and if these have names, then they
stay the same when a result is moved or replaced by another one. -/
theorem parameters_of_readOperation {owner : Owner} {name : String} {node : Xml.Node}
    {id : ElementId} {operation : Operation}
    (h : readOperation owner name node = .ok (id, operation)) :
    Keeps node operation ∧
      ((∀ item ∈ argumentsOf node, Filled item.1 "name") → ∀ node', MovesResult node node' →
        DeclaresParameters owner name node' id operation.parameters) := by
  have hkeeps := keeps_of_readOperation h
  refine ⟨hkeeps, fun hnamed node' hmoves => ⟨hmoves.ok_readOperation_iff ⟨_, h⟩, ?_⟩⟩
  intro id' operation' h'
  have hid := (id_of_readOperation h).1
  have hid' := (id_of_readOperation h').1
  rw [hmoves.text?_eq, hid] at hid'
  have hsame : (argumentsOf node').map Prod.fst = (argumentsOf node).map Prod.fst := by
    rw [map_fst_argumentsOf, map_fst_argumentsOf, hmoves.filter_eq]
  have hnamed' : ∀ other ∈ (argumentsOf node').map Prod.fst, Filled other "name" := by
    rw [hsame, List.forall_mem_map]
    exact hnamed
  exact ⟨(Option.some.inj hid').symm,
    parameters_eq_of_map_fst_eq (keeps_of_readOperation h').parameters hkeeps.parameters hsame
      hnamed'⟩

/-- An operation with some parameters. -/
def operationWith (parameters : List Xml.Node) : Xml.Node :=
  let operation := (Xml.Node.ofTag operationTag).withAttribute idAttribute "o"
  { operation with children := parameters }

/-- A parameter with a name and a type. -/
def parameterNamed (name type : String) : Xml.Node :=
  ((Xml.Node.ofTag "ownedParameter").withAttribute "name" name).withAttribute "type" type

/-- The parameters stay the same when the result between them comes to stand before them and is of
another type. -/
theorem parameters_of_readOperation_total :
    let discount := parameterNamed "Discount" "percent"
    let currency := parameterNamed "currency" "text"
    let result := parameterNamed "returnParameter" "amount"
    let result' := parameterNamed "returnParameter" "text"
    let owner : Owner := ⟨"c", .concrete, "Order"⟩
    ∃ operation operation',
      readOperation owner "total" (operationWith [discount, result, currency]) =
        .ok ("o", operation) ∧
      readOperation owner "total" (operationWith [result', discount, currency]) =
        .ok ("o", operation') ∧
      operation.parameters = [⟨"discount", "percent"⟩, ⟨"currency", "text"⟩] ∧
      operation'.parameters = operation.parameters := by
  intro discount currency result result' owner
  have hread : readOperation owner "total" (operationWith [discount, result, currency]) = .ok
      ("o", ⟨"total", some "amount", [⟨"discount", "percent"⟩, ⟨"currency", "text"⟩], "c"⟩) := by
    decide +kernel
  have hmoves : MovesResult (operationWith [discount, result, currency])
      (operationWith [result', discount, currency]) :=
    .move operationTag _ [discount] [currency] [] [discount, currency] result result' rfl rfl rfl
      (by decide +kernel) (by decide +kernel)
  have hnamed : ∀ item ∈ argumentsOf (operationWith [discount, result, currency]),
      Filled item.1 "name" := by
    have hitems : argumentsOf (operationWith [discount, result, currency]) =
        [(discount, 0), (currency, 2)] := rfl
    rw [hitems]
    simp only [List.forall_mem_cons, filled_iff]
    exact ⟨⟨"Discount", rfl⟩, ⟨"currency", rfl⟩, by simp⟩
  have hdeclares := (parameters_of_readOperation hread).2 hnamed _ hmoves
  have hresults : ∀ parameter ∈ resultsOf (operationWith [result', discount, currency]),
      IsParameter parameter := by
    have hitems : resultsOf (operationWith [result', discount, currency]) = [result'] := rfl
    rw [hitems, List.forall_mem_singleton, IsParameter, filled_iff]
    exact .inl ⟨"text", rfl⟩
  obtain ⟨⟨id', operation'⟩, hread'⟩ := hdeclares.accepted.2 hresults
  obtain ⟨rfl, hsame⟩ := hdeclares.same _ _ hread'
  exact ⟨_, operation', hread, hread', rfl, hsame⟩

end ClassDiagram
