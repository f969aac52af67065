/-!
# Types of a diagram

A diagram declares data types, which are known by their name alone, and
enumerations, which are known by their values.
-/

namespace ClassDiagram

/-- A type without structure, by its name in the type system. -/
structure DataType where
  name : String
deriving DecidableEq

/-- A type given by the list of its values. -/
structure Enumeration where
  name : String
  values : List String
deriving DecidableEq

end ClassDiagram
