import ClassDiagram.Model.Store

/-!
# Interface declarations

The interfaces of a store are written as declarations: a line with the name,
a line for each field, a line for each operation and a closing brace.  Types are
written as they stand in the store.
-/

namespace ClassDiagram

/-- How the parameters of operations are named. -/
inductive ParameterNames where
  /-- By the names in the diagram. -/
  | declared
  /-- All by the same name. -/
  | placeholder
deriving DecidableEq

namespace Declaration

/-- The name of every parameter where names are not wanted. -/
def placeholderName : String := "test"

/-- The type of the result of an operation without result. -/
def voidType : String := "void"

/-- A parameter of a signature. -/
def parameter (names : ParameterNames) (parameter : Parameter) : String :=
  let name := match names with
    | .declared => parameter.name
    | .placeholder => placeholderName
  s!"{name}: {parameter.type}"

/-- The parameters and the result type of an operation. -/
def signature (names : ParameterNames) (operation : Operation) : String :=
  let parameters := ", ".intercalate (operation.parameters.map (parameter names))
  s!"({parameters}): {operation.returnType.getD voidType}"

/-- The line of a field. -/
def fieldLine (field : Field) : String :=
  s!"  {field.name}: {field.type};\n"

/-- The line of an operation. -/
def operationLine (names : ParameterNames) (operation : Operation) : String :=
  s!"  {signature names operation};\n"

/-- The declaration of an entity with its members in the store. -/
def entity (names : ParameterNames) (store : Store) (entity : Entity) : String :=
  s!"interface {entity.name} \x7b\n"
    ++ String.join ((store.fieldsOf entity).map fieldLine)
    ++ String.join ((store.operationsOf entity).map (operationLine names))
    ++ "\x7d\n"

/-- The declarations of all interfaces of a store. -/
def interfaces (names : ParameterNames) (store : Store) : String :=
  String.join (store.interfaces.values.map (entity names store))

end Declaration

end ClassDiagram
