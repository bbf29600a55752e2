import ODataClient.Disk.Basic
import ODataClient.Disk.Path
import ODataClient.Json.Fault
import ODataClient.Pipeline.Context

/-!
# Metadata files

The files below a directory that hold the metadata of services, in the order of their paths, and
what is read of each.
-/

namespace ODataClient

/-- A metadata file. -/
structure ServiceSource where
  path : String
  /-- The name of the file without its ending. -/
  fileName : String
deriving DecidableEq, Repr

/-- Why nothing is read of a metadata file. -/
inductive LoadError where
  | unreadable (path : String) (error : DiskError)
  | unreadableSwagger (path : String) (error : DiskError)
  /-- The text is no JSON, or it does not describe a service. -/
  | malformedSwagger (path : String) (fault : Option Json.Fault)
deriving DecidableEq, Repr

def LoadError.message : LoadError → String
  | unreadable path error => s!"Failed to read {path}: {error.message}"
  | unreadableSwagger path error =>
    s!"failed to read swagger document '{path}': {error.message}"
  | malformedSwagger path fault =>
    let reason := (fault.map Json.Fault.message).getD "unexpected value"
    s!"failed to parse swagger document '{path}': {reason}"

namespace ServiceSource

/-- The metadata file that a path leads to, if its ending is that of one. -/
def ofPath? (path : String) : Option ServiceSource :=
  match (Path.fileName? path).map Path.splitEnding with
  | some (fileName, some ending) =>
    if ["edmx", "xml"].contains (String.ofList (ending.toList.map Char.toLower)) then
      some { path, fileName }
    else none
  | _ => none

/-- Whether the names that lead to a file come before or are those that lead to another. -/
def comesFirst : List String → List String → Bool
  | [], _ => true
  | _ :: _, [] => false
  | name :: names, other :: others =>
    if name = other then comesFirst names others else name < other

/-- The metadata files among files below a directory, in the order of the names that lead to
them. -/
def ofFiles (directory : String) (files : List (List String)) : List ServiceSource :=
  (files.mergeSort comesFirst).filterMap fun names => ofPath? (names.foldl Path.join directory)

variable (source : ServiceSource)

/-- The name of the file with its ending. -/
def documentName : String := (Path.fileName? source.path).getD source.path

/-- The path of the Swagger document that may lie beside the metadata file. -/
def swaggerPath : String :=
  let directory := source.path.toList.take (source.path.length - source.documentName.length)
  String.ofList directory ++ source.fileName ++ ".json"

variable {m : Type → Type} [Monad m] [Disk m]

/-- Reads the Swagger document, if there is one. -/
def loadSwagger : ExceptT LoadError m (Option Swagger) := do
  let path := source.swaggerPath
  if ← (isFile path : m Bool) then
    match ← (readText path : ExceptT DiskError m String).run with
    | .error error => throw (.unreadableSwagger path error)
    | .ok text =>
      match Swagger.parse? text with
      | some swagger => return some swagger
      | none => throw (.malformedSwagger path (Json.fault? text))
  else return none

/-- Reads the metadata file and, if asked to, the Swagger document beside it. -/
def load (useSwagger : Bool) : ExceptT LoadError m ServiceInput := do
  match ← (readText source.path : ExceptT DiskError m String).run with
  | .error error => throw (.unreadable source.path error)
  | .ok text =>
    let swagger ← if useSwagger then source.loadSwagger else pure none
    return {
      fileName := source.fileName
      documents := [{ name := source.documentName, text }]
      mapping := none
      swagger }

end ServiceSource

end ODataClient
