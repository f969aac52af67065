import ClassDiagram.Json.Dump
import ClassDiagram.Proofs.Insertion
import ClassDiagram.Proofs.Json.Reader

/-!
# Models from JSON

A store is read from its JSON by the names of its parts, in whatever order they
stand.  A part that may be left out is absent if its name is, and one that may be
null is absent if it is null.

Each record has a decoder that undoes its `toJson`, and `Store.ofDump?` undoes
`Store.dump`.  So a dump loses nothing of a store (`dump_lossless`).
-/

namespace ClassDiagram

open Json (Value)

namespace Json

variable {α υ : Type}

/-! ## The content of values -/

/-- The text of a value that is one. -/
def Value.text? : Value → Option String
  | .text value => some value
  | _ => none

/-- The items of an array. -/
def Value.items? : Value → Option (List Value)
  | .array items => some items
  | _ => none

/-- The members of an object. -/
def Value.members? : Value → Option (List (String × Value))
  | .object members => some members
  | _ => none

/-! ## What is found under a name -/

/-- A text that is always there. -/
def textOf (found : Option Value) : Option String := found.bind Value.text?

/-- A text that is left out if it is absent. -/
def optionalTextOf : Option Value → Option (Option String)
  | none => some none
  | some value => value.text?.map some

/-- A text that is null if it is absent. -/
def nullableTextOf : Option Value → Option (Option String)
  | none => none
  | some .null => some none
  | some value => value.text?.map some

/-- What a word stands for. -/
def wordOf (words : List (String × α)) (found : Option Value) : Option α :=
  (textOf found).bind fun word => words.lookup word

/-- A list. -/
def listOf (decode : Value → Option α) (found : Option Value) : Option (List α) := do
  let items ← found.bind Value.items?
  items.mapM decode

/-- A map. -/
def mapOf (decode : Value → Option υ) (found : Option Value) :
    Option (OrderedMap String υ) := do
  let members ← found.bind Value.members?
  let entries ← members.mapM fun (key, value) => (decode value).map (key, ·)
  return (∅ : OrderedMap String υ).insertAll entries

end Json

open Json

/-! ## Words for options -/

/-- The words for data transfer objects. -/
def Dto.words : List (String × Dto) := [("no", .no), ("mapstruct", .mapstruct)]

/-- The words for pages. -/
def Pagination.words : List (String × Pagination) :=
  [("no", .no), ("pager", .pager), ("pagination", .pagination),
    ("infinite-scroll", .infiniteScroll)]

/-- The words for service layers. -/
def Service.words : List (String × Service) :=
  [("no", .no), ("serviceClass", .serviceClass), ("serviceImpl", .serviceImpl)]

/-- The names of cardinalities. -/
def Cardinality.words : List (String × Cardinality) :=
  [("ONE_TO_ONE", .oneToOne), ("ONE_TO_MANY", .oneToMany), ("MANY_TO_ONE", .manyToOne),
    ("MANY_TO_MANY", .manyToMany)]

/-! ## Records -/

/-- The data type that an object stands for. -/
def DataType.ofJson? (value : Value) : Option DataType := do
  let members ← value.members?
  return { name := ← textOf (members.lookup "name") }

/-- The enumeration that an object stands for. -/
def Enumeration.ofJson? (value : Value) : Option Enumeration := do
  let members ← value.members?
  return {
    name := ← textOf (members.lookup "name")
    values := ← listOf Value.text? (members.lookup "values") }

/-- The class or interface that an object stands for. -/
def Entity.ofJson? (value : Value) : Option Entity := do
  let members ← value.members?
  return {
    name := ← textOf (members.lookup "name")
    tableName := ← textOf (members.lookup "tableName")
    fields := ← listOf Value.text? (members.lookup "fields")
    operations := ← listOf Value.text? (members.lookup "operations")
    comment := ← optionalTextOf (members.lookup "comment")
    dto := ← wordOf Dto.words (members.lookup "dto")
    pagination := ← wordOf Pagination.words (members.lookup "pagination")
    service := ← wordOf Service.words (members.lookup "service")
    microserviceName := ← optionalTextOf (members.lookup "microserviceName")
    searchEngine := ← optionalTextOf (members.lookup "searchEngine") }

/-- The field that an object stands for. -/
def Field.ofJson? (value : Value) : Option Field := do
  let members ← value.members?
  return {
    name := ← textOf (members.lookup "name")
    type := ← textOf (members.lookup "type")
    comment := ← optionalTextOf (members.lookup "comment")
    owner := ← textOf (members.lookup "owner") }

/-- The parameter that an object stands for. -/
def Parameter.ofJson? (value : Value) : Option Parameter := do
  let members ← value.members?
  return {
    name := ← textOf (members.lookup "name")
    type := ← textOf (members.lookup "type") }

/-- The operation that an object stands for. -/
def Operation.ofJson? (value : Value) : Option Operation := do
  let members ← value.members?
  return {
    name := ← textOf (members.lookup "name")
    returnType := ← optionalTextOf (members.lookup "type")
    parameters := ← listOf Parameter.ofJson? (members.lookup "parameters")
    owner := ← textOf (members.lookup "owner") }

/-- The association that an object stands for. -/
def Association.ofJson? (value : Value) : Option Association := do
  let members ← value.members?
  return {
    source := ← textOf (members.lookup "from")
    target := ← textOf (members.lookup "to")
    fieldInSource := ← nullableTextOf (members.lookup "injectedFieldInFrom")
    fieldInTarget := ← nullableTextOf (members.lookup "injectedFieldInTo")
    cardinality := ← wordOf Cardinality.words (members.lookup "type")
    commentInSource := ← textOf (members.lookup "commentInFrom")
    commentInTarget := ← textOf (members.lookup "commentInTo") }

/-- The store that an object stands for. -/
def Store.ofJson? (value : Value) : Option Store := do
  let members ← value.members?
  return {
    types := ← mapOf DataType.ofJson? (members.lookup "types")
    enumerations := ← mapOf Enumeration.ofJson? (members.lookup "enums")
    classes := ← mapOf Entity.ofJson? (members.lookup "classes")
    interfaces := ← mapOf Entity.ofJson? (members.lookup "interfaces")
    fields := ← mapOf Field.ofJson? (members.lookup "fields")
    operations := ← mapOf Operation.ofJson? (members.lookup "operations")
    associations := ← mapOf Association.ofJson? (members.lookup "associations")
    userClass := ← optionalTextOf (members.lookup "userClassId") }

/-- The store that a text of JSON stands for. -/
def Store.ofDump? (text : String) : Option Store :=
  (Value.ofText? text).bind Store.ofJson?

namespace Json

variable {α υ : Type}

/-! ## Parts are found under their names -/

@[simp]
theorem lookup_part (key : String) (value : Value) :
    (part key value).lookup key = some value := by
  simp [part]

@[simp]
theorem lookup_part_of_ne {key other : String} (value : Value) (h : other ≠ key) :
    (part key value).lookup other = none := by
  simp [part, List.lookup_cons, beq_eq_false_iff_ne.2 h]

@[simp]
theorem lookup_textPart (key text : String) :
    (textPart key text).lookup key = some (.text text) :=
  lookup_part key _

@[simp]
theorem lookup_textPart_of_ne {key other : String} (text : String) (h : other ≠ key) :
    (textPart key text).lookup other = none :=
  lookup_part_of_ne _ h

@[simp]
theorem lookup_optionalPart (key : String) (text : Option String) :
    (optionalPart key text).lookup key = text.map Value.text := by
  cases text with
  | none => rfl
  | some text => exact lookup_textPart key text

@[simp]
theorem lookup_optionalPart_of_ne {key other : String} (text : Option String)
    (h : other ≠ key) : (optionalPart key text).lookup other = none := by
  cases text with
  | none => rfl
  | some text => exact lookup_textPart_of_ne text h

@[simp]
theorem lookup_nullablePart (key : String) (text : Option String) :
    (nullablePart key text).lookup key = some ((text.map Value.text).getD .null) :=
  lookup_part key _

@[simp]
theorem lookup_nullablePart_of_ne {key other : String} (text : Option String)
    (h : other ≠ key) : (nullablePart key text).lookup other = none :=
  lookup_part_of_ne _ h

/-! ## What is found is decoded -/

@[simp]
theorem textOf_text (text : String) : textOf (some (.text text)) = some text := rfl

@[simp]
theorem optionalTextOf_map_text (text : Option String) :
    optionalTextOf (text.map Value.text) = some text := by
  cases text <;> rfl

@[simp]
theorem nullableTextOf_getD_null (text : Option String) :
    nullableTextOf (some ((text.map Value.text).getD .null)) = some text := by
  cases text <;> rfl

@[simp]
theorem wordOf_text (words : List (String × α)) (word : String) :
    wordOf words (some (.text word)) = words.lookup word := rfl

/-- Values that were encoded one by one are decoded one by one. -/
theorem mapM_decode {β : Type} {encode : α → β} {decode : β → Option α}
    (h : ∀ item, decode (encode item) = some item) (items : List α) :
    (items.map encode).mapM decode = some items := by
  induction items with
  | nil => rfl
  | cons item items ih => simp [h, ih]

theorem listOf_map {encode : α → Value} {decode : Value → Option α}
    (h : ∀ item, decode (encode item) = some item) (items : List α) :
    listOf decode (some (.array (items.map encode))) = some items :=
  mapM_decode h items

@[simp]
theorem listOf_textList (texts : List String) :
    listOf Value.text? (some (textList texts)) = some texts :=
  listOf_map (fun text => textOf_text text) texts

/-- A map is decoded with its entries in order, since its keys are distinct. -/
theorem mapOf_ofMap {encode : υ → Value} {decode : Value → Option υ}
    (h : ∀ value, decode (encode value) = some value) (map : OrderedMap String υ) :
    mapOf decode (some (ofMap encode map)) = some map := by
  have hentries : (map.entries.map fun entry => (entry.1, encode entry.2)).mapM
      (fun member => (decode member.2).map (member.1, ·)) = some map.entries :=
    mapM_decode (fun entry => by simp [h]) map.entries
  have hmap : (∅ : OrderedMap String υ).insertAll map.entries = map :=
    OrderedMap.ext (OrderedMap.entries_insertAll_empty map.nodup_keys)
  simp [mapOf, ofMap, Value.members?, hentries, hmap]

end Json

/-! ## Records are decoded -/

theorem DataType.ofJson?_toJson (type : DataType) : ofJson? type.toJson = some type := by
  simp [ofJson?, toJson, Value.members?]

theorem Enumeration.ofJson?_toJson (enumeration : Enumeration) :
    ofJson? enumeration.toJson = some enumeration := by
  simp [ofJson?, toJson, Value.members?, List.lookup_append]

/-- The word of an option leads back to the option. -/
theorem Dto.lookup_text (dto : Dto) : words.lookup dto.text = some dto := by
  cases dto <;> rfl

/-- The word of an option leads back to the option. -/
theorem Pagination.lookup_text (paging : Pagination) :
    words.lookup paging.text = some paging := by
  cases paging <;> rfl

/-- The word of an option leads back to the option. -/
theorem Service.lookup_text (service : Service) : words.lookup service.text = some service := by
  cases service <;> rfl

theorem Entity.ofJson?_toJson (entity : Entity) : ofJson? entity.toJson = some entity := by
  simp [ofJson?, toJson, Value.members?, List.lookup_append, Dto.lookup_text,
    Pagination.lookup_text, Service.lookup_text]

theorem Field.ofJson?_toJson (field : Field) : ofJson? field.toJson = some field := by
  simp [ofJson?, toJson, Value.members?, List.lookup_append]

theorem Parameter.ofJson?_toJson (parameter : Parameter) :
    ofJson? parameter.toJson = some parameter := by
  simp [ofJson?, toJson, Value.members?, List.lookup_append]

theorem Operation.ofJson?_toJson (operation : Operation) :
    ofJson? operation.toJson = some operation := by
  simp [ofJson?, toJson, Value.members?, List.lookup_append,
    listOf_map Parameter.ofJson?_toJson]

/-- The name of a cardinality leads back to it. -/
theorem Cardinality.lookup_text (cardinality : Cardinality) :
    words.lookup cardinality.text = some cardinality := by
  cases cardinality <;> rfl

theorem Association.ofJson?_toJson (association : Association) :
    ofJson? association.toJson = some association := by
  simp [ofJson?, toJson, Value.members?, List.lookup_append, Cardinality.lookup_text]

/-! ## Whole stores -/

theorem Store.ofJson?_toJson (store : Store) : ofJson? store.toJson = some store := by
  simp [ofJson?, toJson, Value.members?, List.lookup_append,
    mapOf_ofMap DataType.ofJson?_toJson, mapOf_ofMap Enumeration.ofJson?_toJson,
    mapOf_ofMap Entity.ofJson?_toJson, mapOf_ofMap Field.ofJson?_toJson,
    mapOf_ofMap Operation.ofJson?_toJson, mapOf_ofMap Association.ofJson?_toJson]

/-- The text of a store is read as that store. -/
theorem Store.ofDump?_dump (store : Store) : ofDump? store.dump = some store := by
  rw [ofDump?, dump, Value.ofText?_pretty, Option.bind_some, ofJson?_toJson]

/-- A dump loses nothing: it is read as the store that it was made of, and different stores have
different dumps. -/
theorem Store.dump_lossless :
    (∀ store : Store, ofDump? store.dump = some store) ∧ Function.Injective Store.dump := by
  refine ⟨ofDump?_dump, fun store store' h => ?_⟩
  have hstores : some store = some store' := by
    rw [← ofDump?_dump store, h, ofDump?_dump store']
  exact Option.some.inj hstores

end ClassDiagram
