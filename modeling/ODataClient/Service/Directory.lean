import ODataClient.Service.Basic
import ODataClient.ServiceMapping

/-!
# Directories of services

The clients of several services lie side by side. Each needs a directory of its own, which the
first to ask for it gets. A mapping records what was chosen, so that the clients can be made under
the same names again.
-/

namespace ODataClient

/-- Two services lead to one directory. -/
structure DuplicateDirectory where
  /-- The service that comes too late. -/
  service : String
  directory : String
  /-- The service that has the directory. -/
  first : String
deriving DecidableEq, Repr

namespace DuplicateDirectory

def message (error : DuplicateDirectory) : String :=
  s!"service '{error.service}' resolves to directory '{error.directory}', already used by " ++
    s!"'{error.first}'"

def code : String := "vdmgen::aggregate::duplicate_directory"

def help : String :=
  "give one of the services another directoryName in the service mapping file"

end DuplicateDirectory

/-- The directories in use, with the services that have them. -/
abbrev DirectoryClaims := Dictionary String

/-- Gives a service its directory, unless another has it. -/
def DirectoryClaims.claim (claims : DirectoryClaims) (service : Service) :
    Except DuplicateDirectory DirectoryClaims :=
  match Dictionary.get? claims service.directoryName with
  | some first =>
    .error { service := service.fileName, directory := service.directoryName, first }
  | none => .ok (Dictionary.insert service.directoryName service.fileName claims)

/-- The mapping under which a service keeps its names. -/
def Service.mapping (service : Service) : ServiceMapping where
  directoryName := service.directoryName
  servicePath := service.servicePath
  npmPackageName := service.npmPackageName

/-- The mappings under which services keep their names, by the names of their files. -/
def ServiceMappings.ofServices (services : List Service) : ServiceMappings :=
  Dictionary.ofEntries (services.map fun service => (service.fileName, service.mapping))

end ODataClient
