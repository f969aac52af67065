import ClassDiagram.Declaration
import ClassDiagram.Diagram
import ClassDiagram.Json.Dump

/-!
# Converting diagrams

A `Converter` is set up once for a type system and then turns the text of a
diagram into a model and the declarations of its interfaces.
-/

namespace ClassDiagram

/-- What a converter is asked to do. -/
structure Options where
  /-- The kind of database whose types are used. -/
  database : String
  parameterNames : ParameterNames
  /-- Whether the model is written beside the declarations. -/
  writeModel : Bool

/-- The options that hold unless others are chosen. -/
def Options.standard : Options := ⟨TypeSystem.sql.name, .declared, false⟩

/-- Options together with the type system that they select. -/
structure Converter where
  types : TypeSystem
  options : Options

/-- A converted diagram. -/
structure Conversion where
  model : Store
  /-- The declarations of the interfaces. -/
  text : String

namespace Converter

/-- The converter for the given options. -/
def ofOptions (options : Options) : Except Fault Converter :=
  (TypeSystem.ofDatabase options.database).map fun types => ⟨types, options⟩

end Converter

/-- A model with the declarations of its interfaces. -/
def Conversion.ofModel (names : ParameterNames) (model : Store) : Conversion :=
  ⟨model, Declaration.interfaces names model⟩

/-- Converts a diagram with any type system. -/
def convertDiagram (system : TypeSystem) (names : ParameterNames) (document : String) :
    Reported (Except Fault Conversion) :=
  let reading := readDiagram system document
  ⟨reading.result.map (Conversion.ofModel names), reading.notices⟩

/-- Converts a diagram. -/
def Converter.convertText (converter : Converter) (document : String) :
    Reported (Except Fault Conversion) :=
  convertDiagram converter.types converter.options.parameterNames document

end ClassDiagram
