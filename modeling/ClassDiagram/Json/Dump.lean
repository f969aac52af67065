import ClassDiagram.Json.Value
import ClassDiagram.Model.Store

/-!
# Models as JSON

Every record becomes an object with its parts in a fixed order, and each of the
seven maps of a store an object with a member per entry in insertion order.  An
optional part that is absent is left out, but for the two fields of an
association, which are null.
-/

namespace ClassDiagram

open Json (Value)

namespace Json

/-- A part that is always there. -/
def part (key : String) (value : Value) : List (String × Value) := [(key, value)]

/-- A text that is always there. -/
def textPart (key text : String) : List (String × Value) := part key (.text text)

/-- A text that is left out if it is absent. -/
def optionalPart (key : String) (text : Option String) : List (String × Value) :=
  match text with
  | some text => textPart key text
  | none => []

/-- A text that is null if it is absent. -/
def nullablePart (key : String) (text : Option String) : List (String × Value) :=
  part key ((text.map Value.text).getD .null)

/-- A list of texts. -/
def textList (texts : List String) : Value := .array (texts.map .text)

/-- A map with its values written by `value`. -/
def ofMap {υ : Type} (value : υ → Value) (map : OrderedMap String υ) : Value :=
  .object (map.entries.map fun (key, entry) => (key, value entry))

end Json

open Json

/-! ## Words for options -/

/-- The word for the option. -/
def Dto.text : Dto → String
  | no => "no"
  | mapstruct => "mapstruct"

/-- The word for the option. -/
def Pagination.text : Pagination → String
  | no => "no"
  | pager => "pager"
  | pagination => "pagination"
  | infiniteScroll => "infinite-scroll"

/-- The word for the option. -/
def Service.text : Service → String
  | no => "no"
  | serviceClass => "serviceClass"
  | serviceImpl => "serviceImpl"

/-! ## Records -/

/-- A data type as an object. -/
def DataType.toJson (type : DataType) : Value :=
  .object (textPart "name" type.name)

/-- An enumeration as an object. -/
def Enumeration.toJson (enumeration : Enumeration) : Value :=
  .object (textPart "name" enumeration.name ++ part "values" (textList enumeration.values))

/-- A class or an interface as an object. -/
def Entity.toJson (entity : Entity) : Value :=
  .object
    (textPart "name" entity.name
      ++ textPart "tableName" entity.tableName
      ++ part "fields" (textList entity.fields)
      ++ part "operations" (textList entity.operations)
      ++ optionalPart "comment" entity.comment
      ++ textPart "dto" entity.dto.text
      ++ textPart "pagination" entity.pagination.text
      ++ textPart "service" entity.service.text
      ++ optionalPart "microserviceName" entity.microserviceName
      ++ optionalPart "searchEngine" entity.searchEngine)

/-- A field as an object. -/
def Field.toJson (field : Field) : Value :=
  .object
    (textPart "name" field.name
      ++ textPart "type" field.type
      ++ optionalPart "comment" field.comment
      ++ textPart "owner" field.owner)

/-- A parameter as an object. -/
def Parameter.toJson (parameter : Parameter) : Value :=
  .object (textPart "name" parameter.name ++ textPart "type" parameter.type)

/-- An operation as an object. -/
def Operation.toJson (operation : Operation) : Value :=
  .object
    (textPart "name" operation.name
      ++ optionalPart "type" operation.returnType
      ++ part "parameters" (.array (operation.parameters.map Parameter.toJson))
      ++ textPart "owner" operation.owner)

/-- An association as an object. -/
def Association.toJson (association : Association) : Value :=
  .object
    (textPart "from" association.source
      ++ textPart "to" association.target
      ++ nullablePart "injectedFieldInFrom" association.fieldInSource
      ++ nullablePart "injectedFieldInTo" association.fieldInTarget
      ++ textPart "type" association.cardinality.text
      ++ textPart "commentInFrom" association.commentInSource
      ++ textPart "commentInTo" association.commentInTarget)

/-! ## The whole store -/

/-- A store as an object of its maps, with the user class if there is one. -/
def Store.toJson (store : Store) : Value :=
  .object
    (part "types" (ofMap DataType.toJson store.types)
      ++ part "enums" (ofMap Enumeration.toJson store.enumerations)
      ++ part "classes" (ofMap Entity.toJson store.classes)
      ++ part "interfaces" (ofMap Entity.toJson store.interfaces)
      ++ part "fields" (ofMap Field.toJson store.fields)
      ++ part "operations" (ofMap Operation.toJson store.operations)
      ++ part "associations" (ofMap Association.toJson store.associations)
      ++ optionalPart "userClassId" store.userClass)

/-- The text of a store. -/
def Store.dump (store : Store) : String := store.toJson.pretty

end ClassDiagram
