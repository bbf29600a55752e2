import ODataClient.TypeScript.Member
import ODataClient.TypeScript.SourceFile
import ODataClient.Unicode.CaseMapping

/-!
# The file of function imports

The operations of a service go into one file: an interface of the parameters and a function that
starts the request for each, and a constant that lists the functions.
-/

namespace ODataClient.TypeScript

open Code (Imports)
open Service (FunctionImport)

namespace FunctionImportsFile

/-- The name of the file without its ending. -/
def fileName : String := "function-imports"

/-- The function of the runtime that turns a response into the result. -/
def transformer (result : Service.Result) : String :=
  let kind := match result with
    | .primitive .. => "EdmType"
    | .entity .. => "Entity"
    | .complex .. => "ComplexType"
    | .void => "Undefined"
  "transformReturnValueFor" ++ kind ++ if result.isMulti then "List" else ""

/-- What the transformer is given besides the response. -/
def transformerArgument : Service.Result → String
  | .primitive _ _ builderFunction _ | .complex _ _ builderFunction _ => builderFunction
  | .entity className _ => className
  | .void => "(val) => undefined"

def resultType (result : Service.Result) : String :=
  result.typeName ++ if result.isMulti then "[]" else ""

/-- Asks for what the result is made with. -/
def importResult (imports : Imports) (result : Service.Result) : Imports :=
  let transformed := imports.value coreModule (transformer result)
  match result with
  | .primitive _ targetType _ _ =>
    importValueType (transformed.value coreModule "edmToTs") targetType
  | .entity name _ | .complex name _ _ _ => transformed.value (siblingModule name) name
  | .void => transformed

/-- Asks for what a function import is declared with. -/
def importFunction (imports : Imports) (function : FunctionImport) : Imports :=
  let parameters := if function.parameters.isEmpty then imports
    else imports.value coreModule "FunctionImportParameter"
  importResult
    (function.parameters.foldl (fun imports parameter =>
      importValueType imports parameter.targetType) parameters)
    function.result

def parametersInterface (function : FunctionImport) : Interface where
  name := function.parametersTypeName
  doc := some s!"Type of the parameters to be passed to [[{function.functionName}]]."
  fields := function.parameters.map fun parameter =>
    { name := parameter.parameterName
      type := parameter.targetType
      doc := some (if parameter.description = "" then parameter.originalName ++ "."
        else parameter.description)
      isOptional := parameter.nullable }

/-- The entry that hands a parameter on. -/
def parameterEntry (parameter : Service.Parameter) : Except UnknownEdmType String := do
  let type ← EdmType.ofName parameter.edmType
  let name := stringLiteral parameter.originalName
  let target := parameter.parameterName
  return s!"{target}: new FunctionImportParameter({name}, '{type.name}', parameters.{target})"

/-- The function that starts the request. -/
def requestFunction (service : Service) (function : FunctionImport) :
    Except UnknownEdmType Function := do
  let entries ← function.parameters.mapM parameterEntry
  let result := function.result
  let path := stringLiteral service.servicePath
  let name := stringLiteral function.originalName
  let method := String.ofList (Unicode.lowercase function.httpMethod.toList)
  let transformed := s!"{transformer result}(data, {transformerArgument result})"
  let request := s!"return new FunctionImportRequestBuilder('{method}', {path}, {name}, " ++
    s!"(data) => {transformed}, params);"
  let description := if function.description = "" then function.originalName ++ "."
    else function.description
  return {
    name := function.functionName
    doc := some (description ++
      "\n\n@param parameters - Object containing all parameters for the function import.\n" ++
      "@returns A request builder that allows to overwrite some of the values and execute the " ++
      "resulting request.")
    parameters := [{ name := "parameters", type := function.parametersTypeName }]
    result := some ("FunctionImportRequestBuilder<" ++
      s!"{function.parametersTypeName}, {resultType result}>")
    body := Text.lines s!"const params = {objectLiteral entries};" ++ Text.lines request }

def declarations (service : Service) (function : FunctionImport) :
    Except UnknownEdmType (List Statement) := do
  let request ← requestFunction service function
  return [.interfaceDeclaration (parametersInterface function), .functionDeclaration request]

/-- The constant that lists the functions. -/
def listing (service : Service) : Constant where
  name := "functionImports"
  value := objectLiteral (service.functionImports.map (·.functionName))

end FunctionImportsFile

def functionImportsFile (service : Service) : Except UnknownEdmType SourceFile := do
  let declarations ← service.functionImports.mapM (FunctionImportsFile.declarations service)
  return {
    imports := service.functionImports.foldl FunctionImportsFile.importFunction
      (Code.Imports.none.value coreModule "FunctionImportRequestBuilder")
    body := declarations.flatten ++ [.constantDeclaration (FunctionImportsFile.listing service)] }

end ODataClient.TypeScript
