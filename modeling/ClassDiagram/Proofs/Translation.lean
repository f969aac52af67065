import ClassDiagram.Proofs.Interfaces
import ClassDiagram.Proofs.Spelling

/-!
# Declarations read off the elements

What is declared of an interface can be read off its element: every attribute
gives a line and every operation another, in the order of the document.
`Translation` does that for a list of elements in one pass and without a store.
Where the ids of the interfaces, of their attributes and of their operations are
distinct, the declarations of a diagram are this translation of its interfaces
(`interfaces_eq_translation`).

A type from outside is spelled as its name with a capital is.  That need not be
how the name itself is spelled (`interfaces_ne_translation_spelling`), though it
is where the name begins with an ASCII character (`canonical?_upperFirst`).

The proof looks at one member at a time.  What it enters gives the line that the
translation gives it (`fieldLines_written`, `operationLines_written`), and with
distinct ids an interface finds again what its members have entered
(`filterMap_get?_interfaceStore`).
-/

namespace ClassDiagram

open Script

variable {υ : Type}

/-! ## The translation -/

namespace Translation

/-- The spelling of a name in a type system, empty if it does not have the name. -/
def spelling (system : TypeSystem) (name : String) : String :=
  (system.canonical? name).getD ""

/-- The spelling of a name that has first been given a capital. -/
def capitalSpelling (system : TypeSystem) (name : String) : String :=
  spelling system (Text.upperFirst name)

/-- The type that an element names: an id as it stands, or else the name at the end of an address
as `spell` has it. -/
def typeText (spell : String → String) (node : Xml.Node) : String :=
  match node.text? "type" with
  | some id => id
  | none =>
      let address := ((node.childTagged? "type" 0).bind (·.text? "href")).getD ""
      spell (typeNameOfAddress address)

/-- The line of an attribute. -/
def fieldLine (spell : String → String) (node : Xml.Node) : String :=
  let name := Text.lowerFirst ((node.text? "name").getD "")
  let type := typeText spell node
  s!"  {name}: {type};\n"

/-- The parameter at position `index` among all parameters of its operation. -/
def parameterText (names : ParameterNames) (node : Xml.Node) (index : Nat) : String :=
  let name := match names with
    | .declared => ((node.text? "name").map Text.lowerFirst).getD s!"arg{index}"
    | .placeholder => "test"
  let type := typeText Text.upperFirst node
  s!"{name}: {type}"

/-- The type of the last of some results. -/
def resultText (results : List Xml.Node) : String :=
  match results.getLast? with
  | some result => typeText Text.upperFirst result
  | none => "void"

/-- The line of an operation. -/
def operationLine (names : ParameterNames) (node : Xml.Node) : String :=
  let all := node.childrenTagged "ownedParameter"
  let arguments := all.zipIdx.filter fun (parameter, _) => !isResult parameter
  let parameters := ", ".intercalate (arguments.map fun (parameter, index) =>
    parameterText names parameter index)
  let result := resultText (all.filter isResult)
  let signature := s!"({parameters}): {result}"
  s!"  {signature};\n"

/-- The declaration of an interface. -/
def interface (spell : String → String) (names : ParameterNames) (node : Xml.Node) : String :=
  let name := Text.upperFirst (ClassName.split ((node.text? "name").getD "")).entity
  s!"interface {name} \x7b\n"
    ++ String.join ((membersOf attributeTag node).map (fieldLine spell))
    ++ String.join ((membersOf operationTag node).map (operationLine names))
    ++ "\x7d\n"

/-- The declarations of some interfaces. -/
def interfaces (spell : String → String) (names : ParameterNames) (nodes : List Xml.Node) :
    String :=
  String.join (nodes.map (interface spell names))

end Translation

/-- The ids of some interfaces are distinct, and so are those of all their attributes and those of
all their operations. -/
structure HaveDistinctIds (nodes : List Xml.Node) : Prop where
  interfaces : (idsOf nodes).Nodup
  attributes : (nodes.flatMap fun node => idsOf (membersOf attributeTag node)).Nodup
  operations : (nodes.flatMap fun node => idsOf (membersOf operationTag node)).Nodup

/-! ## Types -/

/-- The type that an element names is that of its source, which has been given a capital. -/
theorem typeText_of_ofNode? {node : Xml.Node} {source : TypeSource}
    (h : TypeSource.ofNode? node = some source) (spell : String → String) :
    Translation.typeText (fun name => spell (Text.upperFirst name)) node =
      match source with
      | .inside id => id
      | .outside name => spell name := by
  unfold TypeSource.ofNode? at h
  unfold Translation.typeText
  cases htype : node.text? "type" with
  | some id =>
      rw [htype] at h
      cases h
      rfl
  | none =>
      cases haddress : (node.childTagged? "type" 0).bind (·.text? "href") with
      | none =>
          rw [htype, haddress] at h
          cases h
      | some address =>
          rw [htype, haddress] at h
          cases h
          rfl

/-- A field has the type that its attribute names. -/
theorem typeText_of_fieldType {system : TypeSystem} {owner : Owner} {name type : String}
    {node : Xml.Node} (h : (fieldType system owner name node).outcome = .ok type) :
    Translation.typeText (Translation.capitalSpelling system) node = type := by
  unfold fieldType at h
  split at h
  · next id hsource =>
      cases h
      exact typeText_of_ofNode? hsource (Translation.spelling system)
  · next outside hsource =>
      refine (typeText_of_ofNode? hsource (Translation.spelling system)).trans ?_
      show Translation.spelling system outside = type
      rw [outcome_bind] at h
      obtain ⟨canonical, hcanonical, hregister⟩ := bind_eq_ok.1 h
      -- The spelling is spelled once more when the type is entered, and stays as it is.
      rw [registerType, outcome_bind] at hregister
      obtain ⟨canonical', hcanonical', hregister⟩ := bind_eq_ok.1 hregister
      have hfirst := canonical?_of_canonicalize hcanonical
      have hsecond := canonical?_of_canonicalize hcanonical'
      rw [canonical?_canonical hfirst] at hsecond
      cases hsecond
      rw [Translation.spelling, hfirst]
      exact Except.ok.inj hregister
  · cases h

/-- A parameter has the type that its element names. -/
theorem typeText_of_parameterType {owner : Owner} {operation type : String} {node : Xml.Node}
    (h : parameterType owner operation node = .ok type) :
    Translation.typeText Text.upperFirst node = type := by
  unfold parameterType at h
  split at h
  · next hsource =>
      cases h
      exact typeText_of_ofNode? hsource fun name => name
  · next hsource =>
      cases h
      exact typeText_of_ofNode? hsource fun name => name
  · cases h

/-! ## The lines of members -/

/-- Lists whose members correspond have the same texts where corresponding members have. -/
theorem map_eq_map_of_forall₂ {α β : Type} {f : α → String} {g : β → String} {items : List α}
    {others : List β} (h : List.Forall₂ (fun a b => f a = g b) items others) :
    items.map f = others.map g := by
  rw [← List.forall₂_eq_eq_eq, List.forall₂_map_left_iff, List.forall₂_map_right_iff]
  exact h

/-- The field that an attribute enters gives the line of the attribute. -/
theorem fieldLine_recordField {system : TypeSystem} {owner : Owner} {name : String}
    {node : Xml.Node} (hname : node.text? "name" = some name)
    (h : (recordField system owner name node).Succeeds) :
    ∃ entry, Translation.fieldLine (Translation.capitalSpelling system) node =
        Declaration.fieldLine entry.2 ∧
      StorePart.fields.written (recordField system owner name node).edits = [entry] := by
  obtain ⟨id, type, -, htype, hwritten⟩ := MemberPart.written_fields_recordField h
  refine ⟨(id, ⟨Text.lowerFirst name, type, comment? node, owner.id⟩), ?_, hwritten⟩
  rw [Translation.fieldLine, hname, typeText_of_fieldType htype]
  rfl

/-- The fields that an element enters give the lines of its attributes. -/
theorem fieldLines_written {system : TypeSystem} {owner : Owner} {node : Xml.Node}
    (h : (recordMembers system owner node).Succeeds) :
    (membersOf attributeTag node).map
        (Translation.fieldLine (Translation.capitalSpelling system)) =
      (StorePart.fields.written (recordMembers system owner node).edits).map
        fun entry => Declaration.fieldLine entry.2 := by
  apply map_eq_map_of_forall₂
  rw [MemberPart.written_fields_recordMembers h]
  exact forall₂_flatMap_recordMember (edits_recordMembers h).1
    fun _ _ hname => fieldLine_recordField hname

/-- What a parameter stands for, read off its element. -/
def Translation.role (node : Xml.Node) (index : Nat) : ParameterRole :=
  let type := Translation.typeText Text.upperFirst node
  if isResult node then .result type else .argument ⟨parameterName index node, type⟩

theorem role_of_parameterRole {owner : Owner} {operation : String} {node : Xml.Node}
    {index : Nat} {role : ParameterRole} (h : parameterRole owner operation node index = .ok role) :
    role = Translation.role node index := by
  obtain ⟨type, htype, h⟩ := bind_eq_ok.1 h
  rw [Translation.role, typeText_of_parameterType htype]
  exact (Except.ok.inj h).symm

theorem roles_of_readOperation {owner : Owner} {name : String} {node : Xml.Node}
    {id : ElementId} {operation : Operation}
    (h : readOperation owner name node = .ok (id, operation)) :
    let roles := (node.childrenTagged "ownedParameter").zipIdx.map fun (parameter, index) =>
      Translation.role parameter index
    operation.returnType = (roles.filterMap (·.result?)).getLast? ∧
      operation.parameters = roles.filterMap (·.argument?) := by
  unfold readOperation at h
  obtain ⟨roles, hroles, h⟩ := bind_eq_ok.1 h
  obtain ⟨_, -, h⟩ := bind_eq_ok.1 h
  have hmap := eq_map_of_mapM_eq_ok (fun item role => role_of_parameterRole) hroles
  cases h
  exact ⟨by rw [hmap], by rw [hmap]⟩

theorem filterMap_eq_map_filter {α β : Type} {f : α → Option β} {p : α → Bool} {g : α → β}
    (h : ∀ item, f item = if p item then some (g item) else none) (items : List α) :
    items.filterMap f = (items.filter p).map g := by
  rw [← List.filterMap_eq_map, List.filterMap_filter]
  exact List.filterMap_congr fun item _ => h item

/-- A part of the roles that is chosen by the elements alone is given by their types. -/
theorem filterMap_role {type? : ParameterRole → Option String} {chosen : Xml.Node → Bool}
    (h : ∀ node index, type? (Translation.role node index) =
      if chosen node then some (Translation.typeText Text.upperFirst node) else none)
    (nodes : List Xml.Node) :
    (nodes.zipIdx.map fun (parameter, index) =>
      Translation.role parameter index).filterMap type? =
        (nodes.filter chosen).map (Translation.typeText Text.upperFirst) := by
  -- Only the names of parameters depend on their positions.
  calc
    _ = nodes.zipIdx.filterMap fun item => type? (Translation.role item.1 item.2) :=
      List.filterMap_map
    _ = (nodes.zipIdx.map Prod.fst).filterMap fun node =>
          if chosen node then some (Translation.typeText Text.upperFirst node) else none := by
      rw [List.filterMap_map]
      exact List.filterMap_congr fun item _ => h item.1 item.2
    _ = (nodes.filter chosen).map (Translation.typeText Text.upperFirst) := by
      rw [List.zipIdx_map_fst]
      exact filterMap_eq_map_filter (fun _ => rfl) nodes

/-- The results among some parameters are given by their types. -/
theorem filterMap_result?_role (nodes : List Xml.Node) :
    (nodes.zipIdx.map fun (parameter, index) =>
      Translation.role parameter index).filterMap (·.result?) =
        (nodes.filter isResult).map (Translation.typeText Text.upperFirst) := by
  refine filterMap_role (fun node index => ?_) nodes
  unfold Translation.role
  split <;> rfl

/-- A parameter is written with its name, or its position, and its type. -/
theorem parameter_parameterName (names : ParameterNames) (node : Xml.Node) (index : Nat) :
    Declaration.parameter names
        ⟨parameterName index node, Translation.typeText Text.upperFirst node⟩ =
      Translation.parameterText names node index := by
  have hname : parameterName index node =
      ((node.text? "name").map Text.lowerFirst).getD s!"arg{index}" := by
    unfold parameterName
    cases node.text? "name" <;> rfl
  cases names with
  | declared => rw [hname]; rfl
  | placeholder => rfl

/-- The parameters that are not results are written one by one. -/
theorem map_filterMap_argument?_role (names : ParameterNames) (nodes : List Xml.Node) :
    ((nodes.zipIdx.map fun (parameter, index) =>
      Translation.role parameter index).filterMap (·.argument?)).map
        (Declaration.parameter names) =
      (nodes.zipIdx.filter fun (parameter, _) => !isResult parameter).map
        fun (parameter, index) => Translation.parameterText names parameter index := by
  rw [List.filterMap_map, List.map_filterMap]
  apply filterMap_eq_map_filter
  rintro ⟨node, index⟩
  cases hresult : isResult node with
  | true => simp [Translation.role, hresult, ParameterRole.argument?]
  | false =>
      have hrole : (Translation.role node index).argument? =
          some ⟨parameterName index node, Translation.typeText Text.upperFirst node⟩ := by
        simp [Translation.role, hresult, ParameterRole.argument?]
      simp [hrole, parameter_parameterName, hresult]

/-- The operation that an element enters gives the line of the element. -/
theorem operationLine_recordOperation (names : ParameterNames) {owner : Owner} {name : String}
    {node : Xml.Node} (h : (recordOperation owner name node).Succeeds) :
    ∃ entry, Translation.operationLine names node = Declaration.operationLine names entry.2 ∧
      StorePart.operations.written (recordOperation owner name node).edits = [entry] := by
  obtain ⟨id, operation, -, hread, -, hedits⟩ := edits_recordOperation h
  obtain ⟨hresult, hparameters⟩ := roles_of_readOperation hread
  refine ⟨(id, operation), ?_, by rw [hedits]; rfl⟩
  rw [filterMap_result?_role, List.getLast?_map] at hresult
  have htype : operation.returnType.getD Declaration.voidType =
      Translation.resultText ((node.childrenTagged "ownedParameter").filter isResult) := by
    rw [hresult, Translation.resultText]
    cases ((node.childrenTagged "ownedParameter").filter isResult).getLast? <;> rfl
  rw [Translation.operationLine, Declaration.operationLine, Declaration.signature, htype,
    hparameters, map_filterMap_argument?_role]

/-- The operations that an element enters give the lines of its own operations. -/
theorem operationLines_written (names : ParameterNames) {system : TypeSystem} {owner : Owner}
    {node : Xml.Node} (h : (recordMembers system owner node).Succeeds) :
    (membersOf operationTag node).map (Translation.operationLine names) =
      (StorePart.operations.written (recordMembers system owner node).edits).map
        fun entry => Declaration.operationLine names entry.2 := by
  apply map_eq_map_of_forall₂
  rw [MemberPart.written_operations_recordMembers h]
  exact forall₂_flatMap_recordMember (edits_recordMembers h).2.1
    fun _ _ _ => operationLine_recordOperation names

/-! ## Interfaces -/

/-- Where the members of interfaces have distinct ids, an interface finds again what its own
members have entered. -/
theorem filterMap_get?_interfaceStore (part : MemberPart υ) {system : TypeSystem}
    {nodes : List Xml.Node}
    (h : ∀ node ∈ nodes, (recordElement system (.entity .interface) node).Succeeds)
    (hids : (nodes.flatMap fun node => idsOf (membersOf part.tag node)).Nodup)
    {node : Xml.Node} (hnode : node ∈ nodes) :
    let written := part.written (recordElement system (.entity .interface) node).edits
    (written.map Prod.fst).filterMap (part.map (interfaceStore system nodes)).get? =
      written.map Prod.snd := by
  apply OrderedMap.filterMap_get?
  intro entry hentry
  rw [← map_fst_written part h, ← written_interfaceEdits] at hids
  rw [interfaceStore, part.entries_applyAll_empty hids, written_interfaceEdits]
  exact List.mem_flatMap.2 ⟨node, hnode, hentry⟩

/-- With distinct ids, an interface that is entered is declared as its element is translated. -/
theorem interface_recordElement (names : ParameterNames) {system : TypeSystem}
    {nodes : List Xml.Node}
    (h : ∀ node ∈ nodes, (recordElement system (.entity .interface) node).Succeeds)
    (hids : HaveDistinctIds nodes) {node : Xml.Node} (hnode : node ∈ nodes) :
    ∃ entry, Translation.interface (Translation.capitalSpelling system) names node =
        Declaration.entity names (interfaceStore system nodes) entry.2 ∧
      (StorePart.entities .interface).written
        (recordElement system (.entity .interface) node).edits = [entry] := by
  obtain ⟨entityNames, id, hnames, -, hmembers, hwritten, hentity⟩ :=
    written_recordElement (h node hnode)
  refine ⟨_, ?_, hentity⟩
  let edits := (recordMembers system (ownerOf .interface entityNames id) node).edits
  let entity := (entityNamed entityNames node).withMembersOf edits
  have hfound : ∀ {υ : Type} (part : MemberPart υ),
      (nodes.flatMap fun node => idsOf (membersOf part.tag node)).Nodup →
      (part.list entity).filterMap (part.map (interfaceStore system nodes)).get? =
        (part.written edits).map Prod.snd := by
    intro υ part hnodup
    have hget := filterMap_get?_interfaceStore part h hnodup hnode
    rw [hwritten part] at hget
    rw [part.list_withMembersOf]
    exact hget
  have hfields : (interfaceStore system nodes).fieldsOf entity =
      (StorePart.fields.written edits).map Prod.snd := hfound .fields hids.attributes
  have hoperations : (interfaceStore system nodes).operationsOf entity =
      (StorePart.operations.written edits).map Prod.snd := hfound .operations hids.operations
  have hname : entity.name =
      Text.upperFirst (ClassName.split ((node.text? "name").getD "")).entity := by
    rw [← split_of_readClassName hnames]
    rfl
  show _ = Declaration.entity names (interfaceStore system nodes) entity
  unfold Translation.interface
  rw [Declaration.entity, hfields, hoperations, hname, List.map_map, List.map_map,
    fieldLines_written hmembers, operationLines_written names hmembers]
  rfl

/-- Interfaces with distinct ids are declared as their elements are translated. -/
theorem interfaces_interfaceStore_eq_translation (names : ParameterNames) {system : TypeSystem}
    {nodes : List Xml.Node}
    (h : ∀ node ∈ nodes, (recordElement system (.entity .interface) node).Succeeds)
    (hids : HaveDistinctIds nodes) :
    Declaration.interfaces names (interfaceStore system nodes) =
      Translation.interfaces (Translation.capitalSpelling system) names nodes := by
  let part := StorePart.entities .interface
  have hdeclares : List.Forall₂ (Declares system .interface) nodes (nodes.flatMap fun node =>
      part.written (recordElement system (.entity .interface) node).edits) :=
    forall₂_flatMap_of_single fun node hnode => declares_of_recordElement (h node hnode)
  have hnodup : ((part.written (interfaceEdits system nodes)).map Prod.fst).Nodup := by
    rw [written_interfaceEdits, ← idsOf_eq_of_haveIds (haveIds_of_declares hdeclares)]
    exact hids.interfaces
  have hentries : (interfaceStore system nodes).interfaces.entries = nodes.flatMap fun node =>
      part.written (recordElement system (.entity .interface) node).edits := by
    rw [← written_interfaceEdits]
    exact part.entries_applyAll_empty hnodup
  have htexts := map_eq_map_of_forall₂
    (forall₂_flatMap_of_single fun node hnode => interface_recordElement names h hids hnode)
  rw [Declaration.interfaces, OrderedMap.values, hentries, List.map_map,
    Translation.interfaces, htexts]
  rfl

/-- The declarations of a diagram are the translation of its interfaces, if those have distinct
ids.  A name from outside is given a capital before it is spelled, which makes no difference if
it begins with an ASCII character. -/
theorem interfaces_eq_translation {system : TypeSystem} {model : Xml.Node} {store : Store}
    (h : (readModel system model).result = .ok store)
    (hids : HaveDistinctIds (elementsOf (.entity .interface) model)) (names : ParameterNames) :
    Declaration.interfaces names store =
      Translation.interfaces (Translation.capitalSpelling system) names
        (elementsOf (.entity .interface) model) ∧
    ∀ name : String, (∀ c ∈ name.toList.head?, c.toNat < 0x80) →
      Translation.capitalSpelling system name = Translation.spelling system name := by
  have hsucceeds := (readModel_eq_ok_iff.1 h).1
  constructor
  · rw [interfaces_interfaceStore h]
    exact interfaces_interfaceStore_eq_translation names
      (fun _ hnode => succeeds_of_mem_elementsOf hsucceeds hnode) hids
  · intro name hname
    rw [Translation.capitalSpelling, Translation.spelling, Translation.spelling,
      canonical?_upperFirst system hname]

/-- An interface with an attribute of a type from outside and an operation with a result, a
parameter with a name and one without. -/
def quoteModel : Xml.Node :=
  let named (tag name : String) := (Xml.Node.ofTag tag).withAttribute "name" name
  let typeAt (address : String) := (Xml.Node.ofTag "type").withAttribute "href" address
  let amount := ((named attributeTag "Amount").withAttribute idAttribute "a").withChild
    (typeAt "library#bigdecimal")
  let quantity := (named "ownedParameter" "Quantity").withChild (typeAt "library#/integer")
  let result := ((Xml.Node.ofTag "ownedParameter").withAttribute "direction" "return").withAttribute
    "type" "Price"
  let unnamed := (Xml.Node.ofTag "ownedParameter").withAttribute "type" "Customer"
  let quote := (((named operationTag "quote").withAttribute idAttribute "q").withChild
    quantity).withChild result
  let priced := elementNamed "uml:Interface" "i" "priced (prices)"
  (Xml.Node.ofTag modelTag).withChild
    ((priced.withChild amount).withChild (quote.withChild unnamed))

/-- The quote is declared with its types from outside spelled as in the type system, and with a
name for the parameter that has none. -/
theorem interfaces_eq_translation_quote :
    HaveDistinctIds (elementsOf (.entity .interface) quoteModel) ∧
      ∃ store, (readModel .sql quoteModel).result = .ok store ∧
        Declaration.interfaces .declared store = String.join
          ["interface Priced \x7b\n", "  amount: BigDecimal;\n",
            "  (quantity: Integer, arg2: Customer): Price;\n", "\x7d\n"] := by
  have hread : (readModel .sql quoteModel).result.isOk = true := by decide +kernel
  have hids : HaveDistinctIds (elementsOf (.entity .interface) quoteModel) :=
    ⟨by decide +kernel, by decide +kernel, by decide +kernel⟩
  obtain ⟨store, hstore⟩ := exists_eq_ok_of_isOk hread
  obtain ⟨htext, -⟩ := interfaces_eq_translation hstore hids .declared
  refine ⟨hids, store, hstore, htext.trans ?_⟩
  decide +kernel

/-- Two types whose names differ in the case of a letter that is not ASCII. -/
def accentedTypes : TypeSystem := ⟨"accented", ["étoile", "Étoile"]⟩

/-- An interface with an attribute whose type is named like the first of the two types. -/
def accentedModel : Xml.Node :=
  let type := (Xml.Node.ofTag "type").withAttribute "href" "#étoile"
  let field := (((Xml.Node.ofTag attributeTag).withAttribute idAttribute "f").withAttribute
    "name" "f").withChild type
  (Xml.Node.ofTag modelTag).withChild ((elementNamed "uml:Interface" "i" "I").withChild field)

/-- A translation that left out the capital would not be right: where a name begins with a letter
that is not ASCII, the capital may choose another type. -/
theorem interfaces_ne_translation_spelling :
    HaveDistinctIds (elementsOf (.entity .interface) accentedModel) ∧
      ∃ store, (readModel accentedTypes accentedModel).result = .ok store ∧
        Declaration.interfaces .declared store =
          String.join ["interface I \x7b\n", "  f: Étoile;\n", "\x7d\n"] ∧
        Declaration.interfaces .declared store ≠
          Translation.interfaces (Translation.spelling accentedTypes) .declared
            (elementsOf (.entity .interface) accentedModel) := by
  have hread : (readModel accentedTypes accentedModel).result.isOk = true := by decide +kernel
  have hids : HaveDistinctIds (elementsOf (.entity .interface) accentedModel) :=
    ⟨by decide +kernel, by decide +kernel, by decide +kernel⟩
  obtain ⟨store, hstore⟩ := exists_eq_ok_of_isOk hread
  have hsucceeds := (readModel_eq_ok_iff.1 hstore).1
  have htext : Declaration.interfaces .declared store =
      String.join ["interface I \x7b\n", "  f: Étoile;\n", "\x7d\n"] := by
    rw [interfaces_interfaceStore hstore, interfaces_interfaceStore_eq_translation .declared
      (fun _ hnode => succeeds_of_mem_elementsOf hsucceeds hnode) hids]
    decide +kernel
  refine ⟨hids, store, hstore, htext, ?_⟩
  rw [htext]
  decide +kernel

end ClassDiagram
