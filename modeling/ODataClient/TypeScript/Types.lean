import ODataClient.TargetLanguage
import ODataClient.TypeScript.Naming
import ODataClient.Name.Source

/-!
# Types in TypeScript

How primitive and complex values are typed in generated TypeScript, and the modules that the types
come from.
-/

namespace ODataClient.TypeScript

/-- The module with the classes that describe fields and the conversions of values. -/
def coreModule : String := "@sap-cloud-sdk/core"

/-- The type of the values of a primitive. -/
def targetType : EdmType → String
  | .string | .guid | .binary => "string"
  | .boolean => "boolean"
  | .byte | .sbyte | .int16 | .int32 | .single | .double => "number"
  | .int64 | .decimal => "BigNumber"
  | .dateTime | .dateTimeOffset => "Moment"
  | .time => "Time"

/-- The class that describes a field of a primitive. -/
def fieldType : EdmType → String
  | .string | .guid | .binary => "StringField"
  | .boolean => "BooleanField"
  | .byte | .sbyte | .int16 | .int32 | .single | .double => "NumberField"
  | .int64 | .decimal => "BigNumberField"
  | .dateTime | .dateTimeOffset => "DateField"
  | .time => "TimeField"

/-- The module that a type of values is imported from, unless it is built in. Types made of
others, such as arrays, have none. -/
def typeModule? (type : String) : Option String :=
  if type = "BigNumber" then some "bignumber.js"
  else if type = "Moment" then some "moment"
  else if type = "Time" then some coreModule
  else none

/-- The class that describes a primitive field inside a complex type, named for the class outside
of one: `StringField` becomes `ComplexTypeStringPropertyField`. -/
def complexPropertyFieldType (fieldType : String) : String :=
  "ComplexType" ++ (Name.beforeEnd? "Field" fieldType).getD fieldType ++ "PropertyField"

/-- The expression that makes a value from its wire form. -/
def fromWire (type : EdmType) (value : String) : String :=
  s!"edmToTs({value}, '{type.name}')"

/-- The expression that makes the wire form of a value. -/
def toWire (type : EdmType) (value : String) : String :=
  s!"tsToEdm({value}, '{type.name}')"

/-- TypeScript as a language to generate clients in. -/
def language : TargetLanguage where
  name := "typescript"
  fileExtension := "ts"
  naming
  targetType
  fieldType
  fromWire
  toWire
  builderFunction type := "(val) => " ++ fromWire type "val"
  complexFieldType typeName := typeName ++ "Field"
  complexBuilderFunction typeName := typeName ++ ".build"

end ODataClient.TypeScript
