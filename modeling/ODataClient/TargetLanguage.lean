import ODataClient.Edm
import ODataClient.Name.Convention

/-!
# Target languages

What a language that clients are generated in decides: its spelling of names, and how primitive
and complex values are typed, described by fields and converted.
-/

namespace ODataClient

/-- How one primitive type appears in generated code. -/
structure PrimitiveMapping where
  edmType : EdmType
  /-- The type of its values. -/
  targetType : String
  /-- The class that describes a field of the type. -/
  fieldType : String
  /-- The function that makes a value from its wire form. -/
  builderFunction : String
deriving DecidableEq, Repr

/-- A language that clients are generated in. -/
structure TargetLanguage where
  name : String
  /-- The ending of source files. -/
  fileExtension : String
  /-- The spelling of names. -/
  naming : NamingConvention
  /-- The type of the values of a primitive. -/
  targetType : EdmType → String
  /-- The class that describes a field of a primitive. -/
  fieldType : EdmType → String
  /-- The expression that makes a value from the wire form that `value` stands for. -/
  fromWire : EdmType → (value : String) → String
  /-- The expression that makes the wire form of the value that `value` stands for. -/
  toWire : EdmType → (value : String) → String
  /-- The function that makes a value of a primitive from its wire form. -/
  builderFunction : EdmType → String
  /-- The class that describes a field whose type is a complex type. -/
  complexFieldType : (typeName : String) → String
  /-- The function that makes a value of a complex type from its wire form. -/
  complexBuilderFunction : (typeName : String) → String

namespace TargetLanguage

variable (language : TargetLanguage)

/-- The appearance of the primitive type with the given qualified name. -/
def primitive (name : String) : Except UnknownEdmType PrimitiveMapping :=
  (EdmType.ofName name).map fun edmType =>
    { edmType
      targetType := language.targetType edmType
      fieldType := language.fieldType edmType
      builderFunction := language.builderFunction edmType }

end TargetLanguage

end ODataClient
