import ClassDiagram.Fault
import ClassDiagram.Text.AsciiCase

/-!
# Type systems

A type system is a list of type names.  A name from a diagram is accepted if it
equals one of them up to the case of ASCII letters, and it is then spelled as
the first such name in the list.
-/

namespace ClassDiagram

/-- The types that a diagram may use. -/
structure TypeSystem where
  name : String
  typeNames : List String

namespace TypeSystem

/-- The types of relational databases. -/
def sql : TypeSystem where
  name := "sql"
  typeNames :=
    ["String", "Integer", "Long", "BigDecimal", "Float", "Double", "Enum", "Boolean",
      "LocalDate", "ZonedDateTime", "Instant", "Blob", "AnyBlob", "ImageBlob", "TextBlob"]

/-- The kinds of database that may be asked for; only the first has a type system. -/
def databaseNames : List String := ["sql", "mongodb", "cassandra"]

/-- The type system of a kind of database. -/
def ofDatabase (database : String) : Except Fault TypeSystem :=
  if database = sql.name then .ok sql else .error (.unsupportedDatabase databaseNames database)

/-- The first name of the system that equals `name` up to case. -/
def canonical? (system : TypeSystem) (name : String) : Option String :=
  system.typeNames.find? (Text.equalIgnoringCase · name)

/-- The spelling of `name` in the system. -/
def canonicalize (system : TypeSystem) (name : String) : Except Fault String :=
  match system.canonical? name with
  | some canonical => .ok canonical
  | none => .error (.unsupportedType name system.name)

end TypeSystem

end ClassDiagram
