import ODataClient.TypeScript.ComplexTypeFile
import ODataClient.TypeScript.FunctionImportsFile
import ODataClient.TypeScript.PackageJson
import ODataClient.TypeScript.RequestBuilderFile

/-!
# Generated packages

All files of the client of a service. They are made in memory; their paths are relative to the
directory that packages are put into.
-/

namespace ODataClient.TypeScript

inductive Content where
  | source (file : SourceFile)
  | text (text : String)
deriving Repr

structure OutputFile where
  /-- The path, with slashes between its parts. -/
  path : String
  content : Content
deriving Repr

/-- The text of the file as it is written to disk. -/
def OutputFile.text (file : OutputFile) : String :=
  match file.content with
  | .source source => source.text
  | .text text => text

/-- What may be chosen about a package. -/
structure PackageOptions where
  /-- Whether a `package.json` is made. -/
  withPackageJson : Bool := false
  version : Option String := none
deriving DecidableEq, Repr

def PackageOptions.packageVersion (options : PackageOptions) : String :=
  options.version.getD "0.1.0"

/-- The source files of a service, without the index, under their names without ending. -/
def modules (service : Service) : Except UnknownEdmType (List (String × SourceFile)) := do
  let entities ← service.entities.mapM fun entity => do
    return (entity.className, ← entityFile service entity)
  let requestBuilders := service.entities.map fun entity =>
    (requestBuilderClass entity, requestBuilderFile entity)
  let complexTypes ← service.complexTypes.mapM fun type => do
    return (type.typeName, ← complexTypeFile type)
  let functionImports ←
    if service.functionImports.isEmpty then pure []
    else do
      pure [(FunctionImportsFile.fileName, ← functionImportsFile service)]
  return entities ++ requestBuilders ++ complexTypes ++ functionImports

/-- The file that exports again all that other files export. -/
def indexFile (names : List String) : SourceFile where
  exports := names.map fun name => { module := siblingModule name }

/-- The description of the package of a service. -/
def servicePackage (service : Service) (options : PackageOptions) : PackageJson :=
  { PackageJson.service service.npmPackageName options.packageVersion service.fileName with
    homepage := service.documentationUrl }

/-- All files of the client of a service. -/
def package (service : Service) (options : PackageOptions) :
    Except UnknownEdmType (List OutputFile) := do
  let modules ← modules service
  let inDirectory (name : String) := service.directoryName ++ "/" ++ name
  let sources := modules ++ [("index", indexFile (modules.map Prod.fst))]
  let packageJson : List OutputFile :=
    if options.withPackageJson then
      [⟨inDirectory "package.json", .text (servicePackage service options).render⟩]
    else []
  return sources.map (fun (name, file) => ⟨inDirectory (name ++ ".ts"), .source file⟩) ++
    ⟨inDirectory "tsconfig.json", .text tsConfig⟩ :: packageJson

/-- The description of the package that brings the packages of several services together. -/
def aggregatorFile (directoryName npmPackageName : String) (packages : List String)
    (options : PackageOptions) : OutputFile where
  path := directoryName ++ "/package.json"
  content := .text (PackageJson.aggregator npmPackageName options.packageVersion packages).render

end ODataClient.TypeScript
