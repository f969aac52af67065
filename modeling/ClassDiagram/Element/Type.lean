import ClassDiagram.Element.Name
import ClassDiagram.Script
import ClassDiagram.TypeSystem

/-!
# Types and enumerations

A data type is entered under its id with the spelling of the type system; an
enumeration is entered with its values in upper case.
-/

namespace ClassDiagram

/-! ## Types -/

/-- Enters a type under `id` and gives its spelling in the type system. -/
def enterType (system : TypeSystem) (name : String) (id : ElementId) : Builder Store String := do
  let canonical ← ofExcept (system.canonicalize name)
  Builder.report (.registeredType canonical id)
  Builder.change (·.addType id ⟨canonical⟩)
  return canonical

/-- Enters the type that an element declares. -/
def buildType (system : TypeSystem) (node : Xml.Node) : Builder Store Unit := do
  let id ← ofExcept (elementId node)
  let _ ← enterType system ((node.attribute? "name").getD "") id

/-- What `enterType` does. -/
def registerType (system : TypeSystem) (name : String) (id : ElementId) : Script String := do
  let canonical ← Script.ofExcept (system.canonicalize name)
  Script.edit (.registerType id canonical)
  return canonical

/-- What `buildType` does. -/
def recordType (system : TypeSystem) (node : Xml.Node) : Script Unit := do
  let id ← Script.ofExcept (elementId node)
  let _ ← registerType system ((node.attribute? "name").getD "") id

/-! ## Enumerations -/

/-- The value that a literal of an enumeration stands for. -/
def literalValue (enumeration : String) (literal : Xml.Node) : Except Fault String :=
  match literal.text? "name" with
  | some name => .ok (Text.upperAll name)
  | none => .error (.unnamedLiteral enumeration)

/-- The enumeration that an element declares. -/
def readEnumeration (node : Xml.Node) : Except Fault (ElementId × Enumeration) := do
  let some name := node.text? "name" | .error .unnamedEnumeration
  let values ← (node.childrenTagged "ownedLiteral").mapM (literalValue name)
  let id ← elementId node
  return (id, ⟨name, values⟩)

/-- Enters the enumeration that an element declares. -/
def buildEnumeration (node : Xml.Node) : Builder Store (ElementId × Enumeration) := do
  let (id, enumeration) ← ofExcept (readEnumeration node)
  Builder.change (·.addEnumeration id enumeration)
  return (id, enumeration)

/-- What `buildEnumeration` does. -/
def recordEnumeration (node : Xml.Node) : Script (ElementId × Enumeration) := do
  let (id, enumeration) ← Script.ofExcept (readEnumeration node)
  Script.edit (.addEnumeration id enumeration)
  return (id, enumeration)

end ClassDiagram
