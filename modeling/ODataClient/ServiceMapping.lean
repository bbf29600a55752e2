import ODataClient.Json.Parser
import ODataClient.Json.Printer

/-!
# Service mappings

Where the client of a service goes and what it is called, chosen per service and kept in a file.
Services are known by the name of their metadata file without its ending, or by their namespace.
-/

namespace ODataClient

/-- What has been chosen for one service. -/
structure ServiceMapping where
  directoryName : String
  servicePath : String
  npmPackageName : String
deriving DecidableEq, Repr

/-- What has been chosen for several services. -/
abbrev ServiceMappings := Dictionary ServiceMapping

/-- A mapping file that could not be read as one. -/
structure MappingError where
  path : String
deriving DecidableEq, Repr

def MappingError.message (error : MappingError) : String :=
  s!"failed to parse service mapping '{error.path}'"

namespace ServiceMapping

def toJson (mapping : ServiceMapping) : Json :=
  .object [
    ("directoryName", .text mapping.directoryName),
    ("servicePath", .text mapping.servicePath),
    ("npmPackageName", .text mapping.npmPackageName)]

/-- Reads the JSON value of a mapping, all of whose fields must be there. -/
def ofJson? (value : Json) : Option ServiceMapping := do
  let record ← value.asRecord? ["directoryName", "servicePath", "npmPackageName"]
  return {
    directoryName := ← (← record.lookup "directoryName").asText?
    servicePath := ← (← record.lookup "servicePath").asText?
    npmPackageName := ← (← record.lookup "npmPackageName").asText? }

end ServiceMapping

namespace ServiceMappings

def parse (path text : String) : Except MappingError ServiceMappings :=
  match (Json.parse? text).bind (Json.asDictionary? ServiceMapping.ofJson?) with
  | some mappings => .ok mappings
  | none => .error { path }

/-- The mapping of a service, by the name of its file or else by its namespace. -/
def lookup? (mappings : ServiceMappings) (fileName ns : String) : Option ServiceMapping :=
  (Dictionary.get? mappings fileName).or (Dictionary.get? mappings ns)

def render (mappings : ServiceMappings) : String :=
  (Json.object (mappings.map fun (name, mapping) => (name, mapping.toJson))).render ++ "\n"

end ServiceMappings

end ODataClient
