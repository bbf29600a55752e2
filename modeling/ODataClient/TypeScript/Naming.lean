import ODataClient.Name.Convention
import ODataClient.Text.Words

/-!
# Names in TypeScript

Types in Pascal case, members, functions and parameters in camel case, constants in upper snake
case, directories in kebab case.
-/

namespace ODataClient.TypeScript

/-- The words of the language that no identifier of a module may be. -/
def reservedWords : List String := [
    "break", "case", "catch", "class", "const", "continue", "debugger", "default", "delete",
    "do", "else", "enum", "export", "extends", "false", "finally", "for", "function", "if",
    "import", "in", "instanceof", "new", "null", "return", "super", "switch", "this", "throw",
    "true", "try", "typeof", "var", "void", "while", "with", "implements", "interface", "let",
    "package", "private", "protected", "public", "static", "yield", "await"]

/-- The types that generated code imports from its runtime libraries. -/
def runtimeTypes : List String := [
    "AllFields", "BigNumberField", "BooleanField", "ComplexTypeBigNumberPropertyField",
    "ComplexTypeBooleanPropertyField", "ComplexTypeDatePropertyField", "ComplexTypeField",
    "ComplexTypeNumberPropertyField", "ComplexTypeStringPropertyField",
    "ComplexTypeTimePropertyField", "CreateRequestBuilder", "CustomField", "DateField",
    "DeleteRequestBuilder", "Entity", "EntityBuilderType", "FieldType",
    "FunctionImportParameter", "FunctionImportRequestBuilder", "GetAllRequestBuilder",
    "GetByKeyRequestBuilder", "Link", "NumberField", "OneToOneLink", "RequestBuilder",
    "Selectable", "StringField", "Time", "TimeField", "UpdateRequestBuilder", "BigNumber",
    "Moment"]

/-- A reserved word made usable: with an `f` before functions, a `p` before parameters and an
underscore before anything else. -/
def escapeReserved (word : String) : NameKind → String
  | .function | .factory => "f" ++ Text.pascalCase word
  | .parameter => "p" ++ Text.pascalCase word
  | _ => "_" ++ word

/-- The naming convention of generated TypeScript. -/
def naming : NamingConvention where
  typeCase := Text.pascalCase
  memberCase := Text.camelCase
  constantCase := Text.upperSnakeCase
  directoryCase := Text.kebabCase
  reservedWords
  escapeReserved
  runtimeTypes

end ODataClient.TypeScript
