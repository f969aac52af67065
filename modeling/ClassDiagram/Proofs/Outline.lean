import ClassDiagram.Declaration
import Mathlib.Data.List.Basic

/-!
# What can be read back from declarations

A text of declarations is made of words and marks.  As long as the names and types are words, every
part of it shows where it ends: a word ends before a mark, and a list of members before the brace
that closes it.  So the parts of a text are determined by the text from left to right (`Delimits`),
and the declarations of two stores are equal exactly if their interfaces have the same outline
(`interfaces_eq_iff_outline_eq`).

The outline of an interface has its name, the names and types of its fields and the signatures of
its operations.  All else is not declared: the names of operations, comments, and members whose ids
are listed but that are missing.
-/

namespace ClassDiagram

/-! ## Parts of a text -/

section

variable {α β γ : Type}

/-- The text of a good value ends where its text says, if it is followed as expected: the value and
the rest can be told from the whole. -/
def Delimits (text : α → List Char) (good : α → Prop) (after : List Char → Prop) : Prop :=
  ∀ ⦃value value' : α⦄ ⦃rest rest' : List Char⦄, good value → good value' → after rest →
    after rest' → text value ++ rest = text value' ++ rest' → value = value' ∧ rest = rest'

/-- Anything may follow. -/
def Anything (_ : List Char) : Prop := True

namespace Delimits

variable {text : α → List Char} {good : α → Prop} {after after' : List Char → Prop}

/-- A fixed text in front makes no difference. -/
theorem opened (h : Delimits text good after) (front : List Char) :
    Delimits (fun value => front ++ text value) good after := by
  intro value value' rest rest' hgood hgood' hafter hafter' hsame
  simp only [List.append_assoc] at hsame
  exact h hgood hgood' hafter hafter' (List.append_cancel_left hsame)

/-- Behind a mark that ends the text, anything may follow that may follow the mark. -/
theorem closed (h : Delimits text good after) {mark : List Char}
    (hmark : ∀ rest, after' rest → after (mark ++ rest)) :
    Delimits (fun value => text value ++ mark) good after' := by
  intro value value' rest rest' hgood hgood' hafter hafter' hsame
  simp only [List.append_assoc] at hsame
  obtain ⟨hvalue, hrest⟩ := h hgood hgood' (hmark _ hafter) (hmark _ hafter') hsame
  exact ⟨hvalue, List.append_cancel_left hrest⟩

/-- One text after the other. -/
theorem append {text' : β → List Char} {good' : β → Prop} (h : Delimits text good after)
    (h' : Delimits text' good' after')
    (hnext : ∀ value rest, good' value → after' rest → after (text' value ++ rest)) :
    Delimits (fun pair : α × β => text pair.1 ++ text' pair.2)
      (fun pair => good pair.1 ∧ good' pair.2) after' := by
  rintro ⟨first, second⟩ ⟨first', second'⟩ rest rest' ⟨hgood, hsecond⟩ ⟨hgood', hsecond'⟩ hafter
    hafter' hsame
  simp only [List.append_assoc] at hsame
  obtain ⟨rfl, hrest⟩ :=
    h hgood hgood' (hnext _ _ hsecond hafter) (hnext _ _ hsecond' hafter') hsame
  obtain ⟨rfl, rfl⟩ := h' hsecond hsecond' hafter hafter' hrest
  exact ⟨rfl, rfl⟩

/-- What is told by its parts can be told if they can. -/
theorem comap (h : Delimits text good after) {parts : γ → α} (hparts : Function.Injective parts) :
    Delimits (fun value => text (parts value)) (fun value => good (parts value)) after := by
  intro value value' rest rest' hgood hgood' hafter hafter' hsame
  obtain ⟨hvalue, hrest⟩ := h hgood hgood' hafter hafter' hsame
  exact ⟨hparts hvalue, hrest⟩

/-- A list of texts, if an end of the list cannot be taken for another text. -/
theorem flatMap {ends : List Char → Prop} (h : Delimits text good after)
    (hnext : ∀ value rest, good value → after rest → after (text value ++ rest))
    (hlast : ∀ rest, ends rest → after rest)
    (hends : ∀ value rest, good value → after rest → ¬ends (text value ++ rest)) :
    Delimits (fun values : List α => values.flatMap text)
      (fun values => ∀ value ∈ values, good value) ends := by
  have hafter : ∀ (values : List α) (rest : List Char), (∀ value ∈ values, good value) →
      ends rest → after (values.flatMap text ++ rest) := by
    intro values rest hgood hrest
    induction values with
    | nil => exact hlast rest hrest
    | cons value values ih =>
        obtain ⟨hvalue, hvalues⟩ := List.forall_mem_cons.1 hgood
        rw [List.flatMap_cons, List.append_assoc]
        exact hnext _ _ hvalue (ih hvalues)
  intro values values' rest rest' hgood hgood' hrest hrest' hsame
  change values.flatMap text ++ rest = values'.flatMap text ++ rest' at hsame
  induction values generalizing values' with
  | nil =>
      cases values' with
      | nil => exact ⟨rfl, hsame⟩
      | cons value' values' =>
          obtain ⟨hvalue', hvalues'⟩ := List.forall_mem_cons.1 hgood'
          rw [List.flatMap_nil, List.nil_append, List.flatMap_cons, List.append_assoc] at hsame
          rw [hsame] at hrest
          exact absurd hrest (hends _ _ hvalue' (hafter _ _ hvalues' hrest'))
  | cons value values ih =>
      obtain ⟨hvalue, hvalues⟩ := List.forall_mem_cons.1 hgood
      cases values' with
      | nil =>
          rw [List.flatMap_nil, List.nil_append, List.flatMap_cons, List.append_assoc] at hsame
          rw [← hsame] at hrest'
          exact absurd hrest' (hends _ _ hvalue (hafter _ _ hvalues hrest))
      | cons value' values' =>
          obtain ⟨hvalue', hvalues'⟩ := List.forall_mem_cons.1 hgood'
          rw [List.flatMap_cons, List.flatMap_cons, List.append_assoc, List.append_assoc] at hsame
          obtain ⟨rfl, hothers⟩ := h hvalue hvalue' (hafter _ _ hvalues hrest)
            (hafter _ _ hvalues' hrest') hsame
          obtain ⟨rfl, rfl⟩ := ih hvalues hvalues' hothers
          exact ⟨rfl, rfl⟩

end Delimits

end

/-! ## Words -/

/-- A letter, a digit or an underscore. -/
def isWordChar (c : Char) : Bool := c.isAlphanum || c == '_'

/-- The text has letters, digits and underscores only.  An empty text is a word, too. -/
def IsWord (text : String) : Prop := ∀ c ∈ text.toList, isWordChar c = true

instance (text : String) : Decidable (IsWord text) :=
  decidable_of_iff (text.toList.all isWordChar = true) List.all_eq_true

/-- A word cannot go on here. -/
def NoWord (rest : List Char) : Prop := ∀ c ∈ rest.head?, isWordChar c = false

theorem delimits_word : Delimits String.toList IsWord NoWord := by
  intro word word' rest rest' hword hword' hrest hrest' hsame
  have htake : ∀ {word : String} {rest : List Char}, IsWord word → NoWord rest →
      (word.toList ++ rest).takeWhile isWordChar = word.toList := by
    intro word rest hword hrest
    rw [List.takeWhile_append_of_pos hword]
    cases rest with
    | nil => rw [List.takeWhile_nil, List.append_nil]
    | cons c rest =>
        rw [List.takeWhile_cons_of_neg (by simp [hrest c rfl]), List.append_nil]
  have hwords : word.toList = word'.toList := by
    rw [← htake hword hrest, hsame, htake hword' hrest']
  rw [hwords] at hsame
  exact ⟨String.toList_inj.1 hwords, List.append_cancel_left hsame⟩

/-! ## Members -/

/-- A name and a type. -/
def typedText (typed : String × String) : List Char :=
  typed.1.toList ++ ": ".toList ++ typed.2.toList

def IsTyped (typed : String × String) : Prop := IsWord typed.1 ∧ IsWord typed.2

theorem delimits_typed : Delimits typedText IsTyped NoWord := by
  have hname : Delimits (fun name : String => name.toList ++ ": ".toList) IsWord Anything :=
    delimits_word.closed fun rest _ c hc => by
      obtain rfl := Option.some.inj hc
      decide
  exact hname.append delimits_word fun _ _ _ _ => trivial

/-- A name or the mark behind it comes first. -/
theorem exists_typedText_eq_cons {typed : String × String} (h : IsTyped typed) :
    ∃ c rest, typedText typed = c :: rest ∧ (isWordChar c = true ∨ c = ':') := by
  unfold typedText
  cases hname : typed.1.toList with
  | nil => exact ⟨_, _, rfl, .inr rfl⟩
  | cons c name => exact ⟨_, _, rfl, .inl (h.1 c (hname ▸ List.mem_cons_self))⟩

/-- Parameters up to the bracket that closes them. -/
def parametersText (parameters : List (String × String)) : List Char :=
  ", ".toList.intercalate (parameters.map typedText) ++ ")".toList

theorem intercalate_map_cons {α : Type} (mark : List Char) (text : α → List Char) (first : α)
    (others : List α) : mark.intercalate ((first :: others).map text) =
      text first ++ others.flatMap fun value => mark ++ text value := by
  induction others generalizing first with
  | nil => simp
  | cons second others ih =>
      rw [List.map_cons, List.intercalate_cons_of_ne_nil (by simp), ih, List.flatMap_cons]
      simp only [List.append_assoc]

theorem parametersText_cons (parameter : String × String) (others : List (String × String)) :
    parametersText (parameter :: others) = typedText parameter ++
      ((others.flatMap fun other => ", ".toList ++ typedText other) ++ ")".toList) := by
  rw [parametersText, intercalate_map_cons, List.append_assoc]

/-- The bracket does not come before a parameter. -/
theorem parametersText_nil_append_ne {parameter : String × String} (h : IsTyped parameter)
    (others : List (String × String)) (rest rest' : List Char) :
    parametersText [] ++ rest ≠ parametersText (parameter :: others) ++ rest' := by
  obtain ⟨c, text, htext, hc⟩ := exists_typedText_eq_cons h
  rw [parametersText_cons, htext]
  intro hsame
  obtain ⟨rfl, -⟩ := List.cons.inj hsame
  revert hc
  decide

theorem delimits_parameters : Delimits parametersText (fun parameters =>
    ∀ parameter ∈ parameters, IsTyped parameter) Anything := by
  -- Behind the first one, every parameter has a comma in front.
  have hitems : Delimits (fun parameters : List (String × String) =>
      parameters.flatMap fun parameter => ", ".toList ++ typedText parameter)
      (fun parameters => ∀ parameter ∈ parameters, IsTyped parameter)
      (fun rest => rest.head? = some ')') := by
    refine (delimits_typed.opened ", ".toList).flatMap (fun _ rest _ _ c hc => ?_)
      (fun rest hrest c hc => ?_) (fun _ rest _ _ hends => ?_)
    · obtain rfl := Option.some.inj hc
      decide
    · obtain rfl := Option.some.inj (hrest.symm.trans hc)
      decide
    · exact absurd (Option.some.inj hends) (by decide)
  have hothers : Delimits (fun parameters : List (String × String) =>
      (parameters.flatMap fun parameter => ", ".toList ++ typedText parameter) ++ ")".toList)
      (fun parameters => ∀ parameter ∈ parameters, IsTyped parameter) Anything :=
    hitems.closed fun _ _ => rfl
  have hsome := delimits_typed.append hothers fun parameters rest _ _ => by
    intro c hc
    cases parameters with
    | nil =>
        obtain rfl := Option.some.inj hc
        decide
    | cons _ _ =>
        obtain rfl := Option.some.inj hc
        decide
  intro parameters parameters' rest rest' hgood hgood' hrest hrest' hsame
  cases parameters with
  | nil =>
      cases parameters' with
      | nil => exact ⟨rfl, List.append_cancel_left hsame⟩
      | cons parameter' others' =>
          obtain ⟨hparameter', -⟩ := List.forall_mem_cons.1 hgood'
          exact absurd hsame (parametersText_nil_append_ne hparameter' others' rest rest')
  | cons parameter others =>
      obtain ⟨hparameter, hgood⟩ := List.forall_mem_cons.1 hgood
      cases parameters' with
      | nil => exact absurd hsame.symm (parametersText_nil_append_ne hparameter others rest' rest)
      | cons parameter' others' =>
          obtain ⟨hparameter', hgood'⟩ := List.forall_mem_cons.1 hgood'
          rw [parametersText_cons, parametersText_cons] at hsame
          obtain ⟨hpair, hrest⟩ := @hsome (parameter, others) (parameter', others') rest rest'
            ⟨hparameter, hgood⟩ ⟨hparameter', hgood'⟩ hrest hrest' hsame
          obtain ⟨rfl, rfl⟩ := Prod.mk.inj hpair
          exact ⟨rfl, hrest⟩

/-- What is declared of an operation. -/
structure OperationOutline where
  /-- The parameters with their types. -/
  parameters : List (String × String)
  returnType : String
deriving DecidableEq

/-- What is declared of an interface. -/
structure InterfaceOutline where
  name : String
  /-- The fields with their types. -/
  fields : List (String × String)
  operations : List OperationOutline
deriving DecidableEq

structure OperationOutline.IsWords (outline : OperationOutline) : Prop where
  parameters : ∀ parameter ∈ outline.parameters, IsTyped parameter
  returnType : IsWord outline.returnType

structure InterfaceOutline.IsWords (outline : InterfaceOutline) : Prop where
  name : IsWord outline.name
  fields : ∀ field ∈ outline.fields, IsTyped field
  operations : ∀ operation ∈ outline.operations, operation.IsWords

def fieldText (field : String × String) : List Char :=
  "  ".toList ++ (typedText field ++ ";\n".toList)

def operationText (operation : OperationOutline) : List Char :=
  "  ".toList ++ ("(".toList ++ (parametersText operation.parameters ++
    (": ".toList ++ (operation.returnType.toList ++ ";\n".toList))))

def interfaceText (interface : InterfaceOutline) : List Char :=
  "interface ".toList ++ ((interface.name.toList ++ " \x7b\n".toList) ++
    (interface.fields.flatMap fieldText ++
      (interface.operations.flatMap operationText ++ "\x7d\n".toList)))

theorem delimits_field : Delimits fieldText IsTyped Anything := by
  have hclosed : Delimits (fun field => typedText field ++ ";\n".toList) IsTyped Anything :=
    delimits_typed.closed fun rest _ c hc => by
      obtain rfl := Option.some.inj hc
      decide
  exact hclosed.opened _

theorem delimits_operation : Delimits operationText OperationOutline.IsWords Anything := by
  have hreturn : Delimits (fun type : String => type.toList ++ ";\n".toList) IsWord Anything :=
    delimits_word.closed fun rest _ c hc => by
      obtain rfl := Option.some.inj hc
      decide
  have hparts := delimits_parameters.append (hreturn.opened ": ".toList) fun _ _ _ _ => trivial
  have hinjective : Function.Injective fun operation : OperationOutline =>
      (operation.parameters, operation.returnType) := by
    rintro ⟨parameters, type⟩ ⟨parameters', type'⟩ hsame
    obtain ⟨rfl, rfl⟩ := Prod.mk.inj hsame
    rfl
  intro operation operation' rest rest' hgood hgood'
  exact ((hparts.comap hinjective).opened "(".toList).opened "  ".toList
    ⟨hgood.parameters, hgood.returnType⟩ ⟨hgood'.parameters, hgood'.returnType⟩

/-- No more fields follow, but an operation or the end of the interface. -/
def EndsFields (rest : List Char) : Prop := rest.head? = some '\x7d' ∨ "  (".toList <+: rest

theorem delimits_fields : Delimits (fun fields : List (String × String) => fields.flatMap fieldText)
    (fun fields => ∀ field ∈ fields, IsTyped field) EndsFields := by
  refine delimits_field.flatMap (fun _ _ _ _ => trivial) (fun _ _ => trivial)
    fun field rest hfield _ hends => ?_
  obtain ⟨c, text, htext, hc⟩ := exists_typedText_eq_cons hfield
  rcases hends with hbrace | hoperation
  · exact absurd (Option.some.inj hbrace) (by decide)
  · -- A field does not begin with a bracket.
    rw [fieldText, htext] at hoperation
    have hbracket : '(' = c := by
      obtain ⟨others, hothers⟩ := hoperation
      exact (List.cons.inj (List.cons.inj (List.cons.inj hothers).2).2).1
    rw [← hbracket] at hc
    revert hc
    decide

theorem delimits_operations : Delimits
    (fun operations : List OperationOutline => operations.flatMap operationText ++ "\x7d\n".toList)
    (fun operations => ∀ operation ∈ operations, operation.IsWords) Anything := by
  have hlist : Delimits
      (fun operations : List OperationOutline => operations.flatMap operationText)
      (fun operations => ∀ operation ∈ operations, operation.IsWords)
      (fun rest => rest.head? = some '\x7d') :=
    delimits_operation.flatMap (fun _ _ _ _ => trivial) (fun _ _ => trivial)
      fun _ _ _ _ hends => absurd (Option.some.inj hends) (by decide)
  exact hlist.closed fun _ _ => rfl

theorem delimits_interface : Delimits interfaceText InterfaceOutline.IsWords Anything := by
  have hname : Delimits (fun name : String => name.toList ++ " \x7b\n".toList) IsWord Anything :=
    delimits_word.closed fun rest _ c hc => by
      obtain rfl := Option.some.inj hc
      decide
  have hmembers := delimits_fields.append delimits_operations fun operations rest _ _ => by
    cases operations with
    | nil => exact .inl rfl
    | cons operation others => exact .inr ⟨_, rfl⟩
  have hparts := hname.append hmembers fun _ _ _ _ => trivial
  have hinjective : Function.Injective fun interface : InterfaceOutline =>
      (interface.name, interface.fields, interface.operations) := by
    rintro ⟨name, fields, operations⟩ ⟨name', fields', operations'⟩ hsame
    obtain ⟨rfl, hsame⟩ := Prod.mk.inj hsame
    obtain ⟨rfl, rfl⟩ := Prod.mk.inj hsame
    rfl
  intro interface interface' rest rest' hgood hgood'
  exact (hparts.comap hinjective).opened "interface ".toList
    ⟨hgood.name, hgood.fields, hgood.operations⟩ ⟨hgood'.name, hgood'.fields, hgood'.operations⟩

theorem delimits_interfaces : Delimits
    (fun interfaces : List InterfaceOutline => interfaces.flatMap interfaceText)
    (fun interfaces => ∀ interface ∈ interfaces, interface.IsWords) (· = []) :=
  delimits_interface.flatMap (fun _ _ _ _ => trivial) (fun _ _ => trivial)
    fun _ _ _ _ hends => nomatch hends

/-! ## Outlines of stores -/

/-- The name under which a parameter is declared. -/
def ParameterNames.shown (names : ParameterNames) (parameter : Parameter) : String :=
  match names with
  | .declared => parameter.name
  | .placeholder => Declaration.placeholderName

/-- What is declared of an operation. -/
def ParameterNames.outlineOf (names : ParameterNames) (operation : Operation) : OperationOutline :=
  ⟨operation.parameters.map fun parameter => (names.shown parameter, parameter.type),
    operation.returnType.getD Declaration.voidType⟩

namespace Store

/-- What is declared of an entity with its members in the store. -/
def outlineOf (store : Store) (names : ParameterNames) (entity : Entity) : InterfaceOutline where
  name := entity.name
  fields := (store.fieldsOf entity).map fun field => (field.name, field.type)
  operations := (store.operationsOf entity).map names.outlineOf

/-- What is declared of the interfaces of a store, in their order. -/
def outline (store : Store) (names : ParameterNames) : List InterfaceOutline :=
  store.interfaces.values.map (store.outlineOf names)

/-- The names and types that are declared are words. -/
structure InWords (store : Store) (entity : Entity) : Prop where
  name : IsWord entity.name
  fields : ∀ field ∈ store.fieldsOf entity, IsWord field.name ∧ IsWord field.type
  parameters : ∀ operation ∈ store.operationsOf entity, ∀ parameter ∈ operation.parameters,
    IsWord parameter.name ∧ IsWord parameter.type
  returnTypes : ∀ operation ∈ store.operationsOf entity, ∀ type ∈ operation.returnType, IsWord type

theorem inWords_iff {store : Store} {entity : Entity} : store.InWords entity ↔
    IsWord entity.name ∧
      (∀ field ∈ store.fieldsOf entity, IsWord field.name ∧ IsWord field.type) ∧
      ∀ operation ∈ store.operationsOf entity,
        (∀ parameter ∈ operation.parameters, IsWord parameter.name ∧ IsWord parameter.type) ∧
          ∀ type ∈ operation.returnType, IsWord type :=
  ⟨fun h => ⟨h.name, h.fields, fun operation hoperation =>
      ⟨h.parameters operation hoperation, h.returnTypes operation hoperation⟩⟩,
    fun h => ⟨h.1, h.2.1, fun operation hoperation => (h.2.2 operation hoperation).1,
      fun operation hoperation => (h.2.2 operation hoperation).2⟩⟩

instance (store : Store) (entity : Entity) : Decidable (store.InWords entity) :=
  decidable_of_iff _ inWords_iff.symm

end Store

theorem isWords_outlineOf {store : Store} {entity : Entity} (h : store.InWords entity)
    (names : ParameterNames) : (store.outlineOf names entity).IsWords := by
  refine ⟨h.name, ?_, ?_⟩
  · intro declared hdeclared
    obtain ⟨field, hfield, rfl⟩ := List.mem_map.1 hdeclared
    exact h.fields field hfield
  · intro declared hdeclared
    obtain ⟨operation, hoperation, rfl⟩ := List.mem_map.1 hdeclared
    constructor
    · intro shown hshown
      obtain ⟨parameter, hparameter, rfl⟩ := List.mem_map.1 hshown
      obtain ⟨hname, htype⟩ := h.parameters operation hoperation parameter hparameter
      cases names with
      | declared => exact ⟨hname, htype⟩
      | placeholder =>
          refine ⟨?_, htype⟩
          show IsWord "test"
          decide
    · show IsWord (operation.returnType.getD Declaration.voidType)
      cases htype : operation.returnType with
      | none =>
          show IsWord "void"
          decide
      | some type => exact h.returnTypes operation hoperation type htype

theorem toList_fieldLine (field : Field) :
    (Declaration.fieldLine field).toList = fieldText (field.name, field.type) := by
  simp only [Declaration.fieldLine, toString, String.toList_append, fieldText, typedText,
    List.append_assoc]

theorem toList_parameter (names : ParameterNames) (parameter : Parameter) :
    (Declaration.parameter names parameter).toList =
      typedText (names.shown parameter, parameter.type) := by
  cases names <;> simp only [Declaration.parameter, ParameterNames.shown, toString,
    String.toList_append, typedText]

theorem toList_operationLine (names : ParameterNames) (operation : Operation) :
    (Declaration.operationLine names operation).toList =
      operationText (names.outlineOf operation) := by
  have hparameters : (operation.parameters.map (Declaration.parameter names)).map String.toList =
      (names.outlineOf operation).parameters.map typedText := by
    simp only [ParameterNames.outlineOf, List.map_map, Function.comp_def, toList_parameter]
  have hmark : "): ".toList = ")".toList ++ ": ".toList := by decide
  simp only [Declaration.operationLine, Declaration.signature, hmark, toString,
    String.toList_append, String.toList_intercalate, hparameters, operationText, parametersText,
    List.append_assoc, ParameterNames.outlineOf]

/-- The declaration of an entity says no more than its outline. -/
theorem toList_entity (names : ParameterNames) (store : Store) (entity : Entity) :
    (Declaration.entity names store entity).toList =
      interfaceText (store.outlineOf names entity) := by
  unfold Declaration.entity interfaceText Store.outlineOf
  simp only [toString, String.toList_append, String.toList_join, List.flatMap_map,
    toList_fieldLine, toList_operationLine, List.append_assoc]

theorem toList_interfaces (names : ParameterNames) (store : Store) :
    (Declaration.interfaces names store).toList =
      (store.outline names).flatMap interfaceText := by
  rw [Declaration.interfaces, String.toList_join, Store.outline, List.flatMap_map, List.flatMap_map]
  simp only [toList_entity]

/-- Declarations are equal exactly if the outlines are: with the names of the parameters, or with
the placeholder in their place. -/
theorem interfaces_eq_iff_outline_eq {store store' : Store}
    (h : ∀ entity ∈ store.interfaces.values, store.InWords entity)
    (h' : ∀ entity ∈ store'.interfaces.values, store'.InWords entity) (names : ParameterNames) :
    Declaration.interfaces names store = Declaration.interfaces names store' ↔
      store.outline names = store'.outline names := by
  have hwords : ∀ {store : Store}, (∀ entity ∈ store.interfaces.values, store.InWords entity) →
      ∀ interface ∈ store.outline names, interface.IsWords := by
    intro store h interface hinterface
    obtain ⟨entity, hentity, rfl⟩ := List.mem_map.1 hinterface
    exact isWords_outlineOf (h entity hentity) names
  rw [← String.toList_inj, toList_interfaces, toList_interfaces]
  constructor
  · intro hsame
    have hwhole : (store.outline names).flatMap interfaceText ++ [] =
        (store'.outline names).flatMap interfaceText ++ [] := by
      rw [hsame]
    exact (delimits_interfaces (hwords h) (hwords h') rfl rfl hwhole).1
  · intro hsame
    rw [hsame]

/-- An interface with an operation that has a parameter of this name. -/
def shelf (parameter : String) : Store :=
  ((Store.empty.addEntity .interface "i"
    ((Entity.named "Shelf" none).addMembers ["f", "lost"] ["o"])).addField "f"
      ⟨"label", "String", none, "i"⟩).addOperation "o"
        ⟨"put", none, [⟨parameter, "Integer"⟩], "i"⟩

/-- Shelves that differ in the name of the parameter only are told apart by it. -/
theorem interfaces_eq_iff_outline_eq_shelf :
    (∀ entity ∈ (shelf "count").interfaces.values, (shelf "count").InWords entity) ∧
      (∀ entity ∈ (shelf "amount").interfaces.values, (shelf "amount").InWords entity) ∧
      Declaration.interfaces .declared (shelf "count") ≠
        Declaration.interfaces .declared (shelf "amount") ∧
      Declaration.interfaces .placeholder (shelf "count") =
        Declaration.interfaces .placeholder (shelf "amount") := by
  have hcount : ∀ entity ∈ (shelf "count").interfaces.values, (shelf "count").InWords entity := by
    decide
  have hamount : ∀ entity ∈ (shelf "amount").interfaces.values,
      (shelf "amount").InWords entity := by
    decide
  refine ⟨hcount, hamount, fun hsame => ?_, ?_⟩
  · exact absurd ((interfaces_eq_iff_outline_eq hcount hamount .declared).1 hsame) (by decide)
  · exact (interfaces_eq_iff_outline_eq hcount hamount .placeholder).2 (by decide)

end ClassDiagram
