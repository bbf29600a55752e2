import ODataClient.Service.Basic
import ODataClient.TypeScript.Expression
import ODataClient.TypeScript.Syntax
import ODataClient.TypeScript.Types

/-!
# Members of generated classes

What the files of entities and complex types have in common: how properties are documented, and
where the types of their values are imported from.
-/

namespace ODataClient.TypeScript

open Code (Imports)

/-- The module of another file of the same service. -/
def siblingModule (file : String) : String := "./" ++ file

/-- Asks for the type of a value, unless it is built in. -/
def importValueType (imports : Imports) (type : String) : Imports :=
  match typeModule? type with
  | some module => imports.value module type
  | none => imports

/-- Asks for the class of a complex type and the class that describes its fields. -/
def importComplexType (imports : Imports) (property : Service.Property) : Imports :=
  imports.values (siblingModule property.targetType) [property.targetType, property.fieldType]

/-- The comment of a property: its description, its greatest length, and whether it may be null. -/
def propertyDoc (property : Service.Property) : String :=
  let description := if property.description = "" then [] else [property.description]
  let length := property.maxLength.toList.map fun length => s!"Maximum length: {length}."
  let nullable := if property.nullable then ["@nullable"] else []
  "\n".intercalate (description ++ length ++ nullable)

/-- The object literal with the key of an entity, by the names of the key properties in the
metadata. -/
def keyObject (keys : List Service.Property) (value : Service.Property → String) : String :=
  objectLiteral (keys.map fun key => key.originalName ++ ": " ++ value key)

end ODataClient.TypeScript
