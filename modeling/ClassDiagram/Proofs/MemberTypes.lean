import ClassDiagram.Proofs.Addresses
import ClassDiagram.Proofs.Case
import ClassDiagram.Proofs.References
import ClassDiagram.Proofs.Translation

/-!
# Which types are empty

No member is accepted without a type, but what the type of a parameter is called is not
looked at.  It is called nothing if it is at an address that ends without a name, as
`types.uml#` does (`NamesNoType`).  These are the only empty types in a store of
relational types, or in its declarations (`typed_of_readModel`): the types of fields are
names of the type system, and an id of the diagram is never empty.

The text of such a declaration has a gap (`operation_without_type`).
-/

namespace ClassDiagram

open Grammar Script

/-! ## Parameters -/

/-- The type is to come from an address, and the address ends without a name. -/
def NamesNoType (node : Xml.Node) : Prop :=
  ¬Filled node "type" ∧ ∃ address, Addressed node address ∧
    ∀ c ∈ afterLast '#' address.toList, c = '/'

/-- The type of a parameter is empty exactly if its address ends without a name. -/
theorem typeText_eq_empty_iff {node : Xml.Node} (h : IsParameter node) :
    Translation.typeText Text.upperFirst node = "" ↔ NamesNoType node := by
  unfold Translation.typeText NamesNoType
  cases htype : node.text? "type" with
  | some id =>
      have hfilled : Filled node "type" := filled_iff.2 ⟨id, htype⟩
      simp [hfilled, Xml.Node.ne_empty_of_text? htype]
  | none =>
      have hempty := text?_eq_none_iff.1 htype
      obtain ⟨address, haddress⟩ := h.resolve_left hempty
      rw [exists_addressed_and haddress fun address => ∀ c ∈ afterLast '#' address.toList, c = '/',
        ← typeNameOfAddress_eq_empty_iff]
      simp [hempty, addressed_iff.1 haddress, Text.upperFirst_eq_empty_iff]

/-- The types of an operation are empty for those of its parameters whose addresses end without a
name, and for no others. -/
structure TypedAsNamed (node : Xml.Node) (operation : Operation) : Prop where
  /-- Parameters that are not results stay in order. -/
  parameters : List.Forall₂ (fun node parameter => parameter.type = "" ↔ NamesNoType node)
    ((node.childrenTagged "ownedParameter").filter (!isResult ·)) operation.parameters
  /-- Of several results the last counts. -/
  result : operation.returnType = some "" ↔
    ∃ result, ((node.childrenTagged "ownedParameter").filter isResult).getLast? = some result ∧
      NamesNoType result

/-- The parameters that are not results are given by their types. -/
theorem types_filterMap_argument?_role (nodes : List Xml.Node) :
    ((nodes.zipIdx.map fun (parameter, index) =>
      Translation.role parameter index).filterMap (·.argument?)).map Parameter.type =
        (nodes.filter (!isResult ·)).map (Translation.typeText Text.upperFirst) := by
  rw [List.map_filterMap]
  refine filterMap_role (fun node index => ?_) nodes
  cases hresult : isResult node with
  | true => simp [Translation.role, hresult, ParameterRole.argument?]
  | false => simp [Translation.role, hresult, ParameterRole.argument?]

/-- An operation is read with the types that its parameters name. -/
theorem typedAsNamed_of_readOperation {owner : Owner} {name : String} {node : Xml.Node}
    {id : ElementId} {operation : Operation}
    (h : readOperation owner name node = .ok (id, operation)) : TypedAsNamed node operation := by
  have hempty : ∀ parameter ∈ node.childrenTagged "ownedParameter",
      (Translation.typeText Text.upperFirst parameter = "" ↔ NamesNoType parameter) :=
    fun parameter hparameter =>
      typeText_eq_empty_iff ((ok_readOperation.1 ⟨_, h⟩).2 parameter hparameter)
  obtain ⟨hresult, hparameters⟩ := roles_of_readOperation h
  constructor
  · have htypes := types_filterMap_argument?_role (node.childrenTagged "ownedParameter")
    rw [← hparameters, ← List.forall₂_eq_eq_eq, List.forall₂_map_left_iff,
      List.forall₂_map_right_iff] at htypes
    have hall := List.forall₂_iff_zip.1 htypes.flip
    refine List.forall₂_iff_zip.2 ⟨hall.1, fun {parameter written} hzip => ?_⟩
    have hmem := (List.mem_filter.1 (List.of_mem_zip hzip).1).1
    rw [hall.2 hzip, hempty parameter hmem]
  · rw [hresult, filterMap_result?_role, List.getLast?_map, Option.map_eq_some_iff]
    refine exists_congr fun result => and_congr_right fun hlast => ?_
    exact hempty result (List.mem_filter.1 (List.mem_of_getLast? hlast)).1

/-! ## Members -/

/-- A field has a type that is not empty, unless the type system has the empty name. -/
theorem ne_empty_of_fieldType {system : TypeSystem} (hsystem : "" ∉ system.typeNames)
    {owner : Owner} {name type : String} {node : Xml.Node}
    (h : (fieldType system owner name node).outcome = .ok type) : type ≠ "" := by
  by_cases hfilled : Filled node "type"
  · obtain ⟨id, hid⟩ := filled_iff.1 hfilled
    have hsource : TypeSource.ofNode? node = some (.inside id) := by
      rw [TypeSource.ofNode?, hid]
    rw [fieldType, hsource] at h
    obtain rfl : id = type := Except.ok.inj h
    exact Xml.Node.ne_empty_of_text? hid
  · exact ne_empty_of_canonical? hsystem
      (canonical?_of_outsideType? (outsideType?_of_fieldType h hfilled))

/-- The operations that a class or an interface enters have the types that their elements name. -/
theorem typedAsNamed_of_mem_written {system : TypeSystem} {kind : EntityKind} {node : Xml.Node}
    (h : (recordElement system (.entity kind) node).Succeeds) {entry : ElementId × Operation}
    (hentry : entry ∈
      StorePart.operations.written (recordElement system (.entity kind) node).edits) :
    ∃ member ∈ membersOf operationTag node,
      member.text? idAttribute = some entry.1 ∧ TypedAsNamed member entry.2 := by
  obtain ⟨names, owner, -, -, hmembers, hsame, -⟩ := written_recordElement h
  have hoperations := hsame .operations
  rw [MemberPart.operations, MemberPart.written_operations_recordMembers hmembers] at hoperations
  rw [hoperations] at hentry
  obtain ⟨member, hmember, name, -, hsucceeds, hwritten⟩ :=
    exists_record_of_mem_written (edits_recordMembers hmembers).2.1 hentry
  obtain ⟨id, operation, hid, hread, -, hedits⟩ := edits_recordOperation hsucceeds
  rw [hedits] at hwritten
  obtain rfl := List.mem_singleton.1 hwritten
  exact ⟨member, hmember, hid, typedAsNamed_of_readOperation hread⟩

/-! ## Members without a type -/

/-- An attribute has a type: one of the diagram, or one of the type system. -/
def HasType (system : TypeSystem) (node : Xml.Node) : Prop :=
  Filled node "type" ∨ ∃ address, Addressed node address ∧
    Listed system (Text.upperFirst (typeNameOfAddress address))

theorem canonicalize_of_not_listed {system : TypeSystem} {name : String}
    (h : ¬Listed system name) :
    system.canonicalize name = .error (.unsupportedType name system.name) := by
  have hnone : system.canonical? name = none :=
    canonical?_eq_none_iff.2 fun listed hmem hequal => h ⟨listed, hmem, hequal⟩
  exact canonicalize_of_canonical?_eq_none hnone

theorem refused_fieldType {system : TypeSystem} {node : Xml.Node} (h : ¬HasType system node)
    (owner : Owner) (name : String) :
    ∃ fault, (fieldType system owner name node).outcome = .error fault ∧
      (fault.kind = .wrongType ∨ fault.kind = .wrongField) := by
  unfold fieldType
  rcases typeSource_cases node with
    ⟨hfilled, -⟩ | ⟨-, address, haddress, hsource⟩ | ⟨-, -, hsource⟩
  · exact absurd (.inl hfilled) h
  · have hunlisted : ¬Listed system (Text.upperFirst (typeNameOfAddress address)) :=
      fun hlisted => h (.inr ⟨address, haddress, hlisted⟩)
    simp only [hsource, outcome_bind, Script.ofExcept, canonicalize_of_not_listed hunlisted]
    exact ⟨_, rfl, .inl rfl⟩
  · simp only [hsource]
    exact ⟨_, rfl, .inr rfl⟩

/-- An attribute without a type is refused for it, before anything else about it is looked at. -/
theorem refused_buildField {system : TypeSystem} {node : Xml.Node} (h : ¬HasType system node)
    (owner : Owner) (name : String) :
    ∃ fault, (∀ store, ((buildField system owner name node).run store).result = .error fault) ∧
      (fault.kind = .wrongType ∨ fault.kind = .wrongField) := by
  obtain ⟨fault, hfault, hkind⟩ := refused_fieldType h owner name
  refine ⟨fault, fun store => ?_, hkind⟩
  have hrefused : (fieldOf system owner name node).outcome = .error fault := by
    rw [fieldOf, outcome_bind, hfault]
    rfl
  rw [buildField_eq, run_replay]
  exact hrefused

/-- A parameter is refused only where it has no type. -/
theorem kind_of_parameterRole_eq_error {owner : Owner} {operation : String} {node : Xml.Node}
    {index : Nat} {fault : Fault} (h : parameterRole owner operation node index = .error fault) :
    fault.kind = .wrongField := by
  unfold parameterRole parameterType at h
  split at h
  · cases h
  · cases h
  · cases h
    rfl

/-- An operation with a parameter without a type is refused for such a parameter. -/
theorem refused_readOperation {node parameter : Xml.Node}
    (hparameter : parameter ∈ node.childrenTagged "ownedParameter") (h : ¬IsParameter parameter)
    (owner : Owner) (name : String) :
    ∃ fault, readOperation owner name node = .error fault ∧ fault.kind = .wrongField := by
  unfold readOperation
  cases hroles : (node.childrenTagged "ownedParameter").zipIdx.mapM fun (parameter, index) =>
      parameterRole owner name parameter index with
  | ok roles =>
      rw [← List.zipIdx_map_fst 0 (node.childrenTagged "ownedParameter")] at hparameter
      obtain ⟨item, hitem, rfl⟩ := List.mem_map.1 hparameter
      exact absurd (ok_parameterRole.1 (ok_mapM.1 ⟨roles, hroles⟩ item hitem)) h
  | error fault =>
      obtain ⟨⟨_, _⟩, -, hrole⟩ := exists_mem_of_mapM_eq_error hroles
      exact ⟨fault, rfl, kind_of_parameterRole_eq_error hrole⟩

/-- Members that are not named like an id meet the condition on members. -/
theorem condition_of_mem_membersOf {condition : Xml.Node → Prop} {tag : String}
    {node member : Xml.Node} (h : ∀ member ∈ node.childrenTagged tag, IsMember condition member)
    (hmember : member ∈ membersOf tag node) : condition member := by
  obtain ⟨hmem, hid⟩ := List.mem_filter.1 hmember
  obtain ⟨name, hname, hcondition⟩ := h member hmem
  rw [isIdMember, text?_eq_some_iff.2 hname] at hid
  exact hcondition (by simpa using hid)

/-! ## Whole models -/

/-- The members of a model have types, and the store has those types.  The only empty ones are
those of parameters whose addresses end without a name. -/
structure Typed (system : TypeSystem) (model : Xml.Node) (store : Store) : Prop where
  attributes : ∀ kind, ∀ node ∈ elementsOf (.entity kind) model,
    ∀ member ∈ membersOf attributeTag node, HasType system member
  parameters : ∀ kind, ∀ node ∈ elementsOf (.entity kind) model,
    ∀ member ∈ membersOf operationTag node,
      ∀ parameter ∈ member.childrenTagged "ownedParameter", IsParameter parameter
  fields : ∀ entry ∈ store.fields.entries, entry.2.type ≠ ""
  operations : ∀ entry ∈ store.operations.entries,
    ∃ kind, ∃ node ∈ elementsOf (.entity kind) model, ∃ member ∈ membersOf operationTag node,
      member.text? idAttribute = some entry.1 ∧ TypedAsNamed member entry.2
  /-- An interface is declared with these fields. -/
  declaredFields : ∀ entity ∈ store.interfaces.values,
    ∀ field ∈ store.fieldsOf entity, field.type ≠ ""
  /-- An interface is declared with these operations, which come from interfaces. -/
  declaredOperations : ∀ entity ∈ store.interfaces.values,
    ∀ operation ∈ store.operationsOf entity, ∃ node ∈ elementsOf (.entity .interface) model,
      ∃ member ∈ membersOf operationTag node, TypedAsNamed member operation

/-- Wherever it stands, a member that has no type is refused for that. -/
structure RefusesUntyped (system : TypeSystem) : Prop where
  field : ∀ node, ¬HasType system node → ∀ owner name, ∃ fault,
    (∀ store, ((buildField system owner name node).run store).result = .error fault) ∧
      (fault.kind = .wrongType ∨ fault.kind = .wrongField)
  operation : ∀ node, ∀ parameter ∈ node.childrenTagged "ownedParameter",
    ¬IsParameter parameter → ∀ owner name,
      ∃ fault, readOperation owner name node = .error fault ∧ fault.kind = .wrongField

section

variable {system : TypeSystem} {model : Xml.Node} {store : Store}
  (h : (readModel system model).result = .ok store)

include h

theorem isEntity_of_mem_elementsOf {kind : EntityKind} {node : Xml.Node}
    (hnode : node ∈ elementsOf (.entity kind) model) : IsEntity system node :=
  succeeds_recordElement.1 (succeeds_of_mem_elementsOf (readModel_eq_ok_iff.1 h).1 hnode)

/-- No stored field has an empty type. -/
theorem type_ne_empty_of_mem_fields (hsystem : "" ∉ system.typeNames)
    {entry : ElementId × Field} (hentry : entry ∈ store.fields.entries) : entry.2.type ≠ "" := by
  obtain ⟨_, _, -, _, _, _, _, -, -, -, -, hwritten⟩ := exists_buildsField h hentry
  obtain ⟨_, type, -, htype, hsame⟩ :=
    MemberPart.written_fields_recordField (succeeds_of_mem_written_recordField hwritten)
  rw [hsame] at hwritten
  obtain rfl := List.mem_singleton.1 hwritten
  exact ne_empty_of_fieldType hsystem htype

/-- A stored operation has the types that the parameters of its element name. -/
theorem typedAsNamed_of_mem_operations {entry : ElementId × Operation}
    (hentry : entry ∈ store.operations.entries) :
    ∃ kind, ∃ node ∈ elementsOf (.entity kind) model, ∃ member ∈ membersOf operationTag node,
      member.text? idAttribute = some entry.1 ∧ TypedAsNamed member entry.2 := by
  obtain ⟨kind, node, hnode, hsucceeds, hwritten⟩ :=
    exists_recordElement_of_mem_members h .operations hentry
  exact ⟨kind, node, hnode, typedAsNamed_of_mem_written hsucceeds hwritten⟩

/-- An operation that is declared has the types that an interface names. -/
theorem typedAsNamed_of_mem_operationsOf {entity : Entity}
    (hentity : entity ∈ store.interfaces.values) {operation : Operation}
    (hoperation : operation ∈ store.operationsOf entity) :
    ∃ node ∈ elementsOf (.entity .interface) model, ∃ member ∈ membersOf operationTag node,
      TypedAsNamed member operation := by
  obtain ⟨id, hid, hget⟩ := List.mem_filterMap.1 hoperation
  have hsame := get?_member_of_interface h .operations hentity hid
  have hentry := OrderedMap.get?_eq_some_iff.1 (hsame.symm.trans hget)
  have hwritten := MemberPart.operations.mem_written_of_mem_applyAll_empty hentry
  rw [written_interfaceEdits] at hwritten
  obtain ⟨node, hnode, hwritten⟩ := List.mem_flatMap.1 hwritten
  have hsucceeds := succeeds_of_mem_elementsOf (readModel_eq_ok_iff.1 h).1 hnode
  obtain ⟨member, hmember, -, htyped⟩ := typedAsNamed_of_mem_written hsucceeds hwritten
  exact ⟨node, hnode, member, hmember, htyped⟩

end

/-- With relational types no accepted model has an empty type but of parameters whose addresses
end without a name, and members that have no type are refused. -/
theorem typed_of_readModel {model : Xml.Node} {store : Store}
    (h : (readModel .sql model).result = .ok store) :
    Typed .sql model store ∧ RefusesUntyped .sql := by
  have hsystem : "" ∉ TypeSystem.sql.typeNames := by decide
  constructor
  · refine
      { attributes := fun kind node hnode member hmember => ?_
        parameters := fun kind node hnode member hmember => ?_
        fields := fun _ hentry => type_ne_empty_of_mem_fields h hsystem hentry
        operations := fun _ hentry => typedAsNamed_of_mem_operations h hentry
        declaredFields := fun entity hentity field hfield => ?_
        declaredOperations := fun _ hentity _ hoperation =>
          typedAsNamed_of_mem_operationsOf h hentity hoperation }
    · obtain ⟨-, -, hattributes, -⟩ := isEntity_of_mem_elementsOf h hnode
      exact (condition_of_mem_membersOf hattributes hmember).2
    · obtain ⟨-, -, -, hoperations⟩ := isEntity_of_mem_elementsOf h hnode
      exact (condition_of_mem_membersOf hoperations hmember).2
    · obtain ⟨id, -, hget⟩ := List.mem_filterMap.1 hfield
      exact type_ne_empty_of_mem_fields h hsystem (OrderedMap.get?_eq_some_iff.1 hget)
  · exact
      { field := fun _ huntyped => refused_buildField huntyped
        operation := fun _ _ hparameter huntyped => refused_readOperation hparameter huntyped }

/-- An interface with an operation that has a parameter with its type at a given address. -/
def pricedModel (address : String) : Xml.Node :=
  let amount := ((Xml.Node.ofTag "ownedParameter").withAttribute "name" "amount").withChild
    ((Xml.Node.ofTag "type").withAttribute "href" address)
  let price := ((Xml.Node.ofTag operationTag).withAttribute idAttribute "o").withAttribute
    "name" "price"
  (Xml.Node.ofTag modelTag).withChild
    ((elementNamed "uml:Interface" "i" "Priced").withChild (price.withChild amount))

/-- The parameter at an address with a name has a type. -/
theorem typed_of_readModel_priced :
    ∃ store, (readModel .sql (pricedModel "types.uml#decimal")).result = .ok store ∧
      Typed .sql (pricedModel "types.uml#decimal") store ∧ RefusesUntyped .sql := by
  have hread : (readModel .sql (pricedModel "types.uml#decimal")).result.isOk = true := by
    decide +kernel
  obtain ⟨store, hstore⟩ := exists_eq_ok_of_isOk hread
  exact ⟨store, hstore, typed_of_readModel hstore⟩

/-- The parameter at an address without a name is accepted with the empty type. -/
theorem operation_without_type :
    ∃ store, (readModel .sql (pricedModel "types.uml#")).result = .ok store ∧
      store.operations.values = [⟨"price", none, [⟨"amount", ""⟩], "i"⟩] ∧
      Declaration.interfaces .declared store =
        String.join ["interface Priced \x7b\n", "  (amount: ): void;\n", "\x7d\n"] := by
  have hread : (readModel .sql (pricedModel "types.uml#")).result.map (fun store =>
      (store.operations.values, Declaration.interfaces .declared store)) =
        .ok ([⟨"price", none, [⟨"amount", ""⟩], "i"⟩],
          String.join ["interface Priced \x7b\n", "  (amount: ): void;\n", "\x7d\n"]) := by
    decide +kernel
  obtain ⟨store, hstore, hsame⟩ := map_eq_ok.1 hread
  obtain ⟨hoperations, htext⟩ := Prod.mk.inj hsame
  exact ⟨store, hstore, hoperations, htext⟩

end ClassDiagram
