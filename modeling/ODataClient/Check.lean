import ODataClient.Generation.Run
import ODataClient.Json.Printer
import ODataClient.Service.Json

/-!
# Checks

The metadata files below a directory are read and their models built, and what is found is
reported, without generating anything. The models may be written down.
-/

namespace ODataClient

structure CheckOptions where
  inputDirectory : String
  /-- The file with the mappings of services. -/
  serviceMapping : Option String
  useSwagger : Bool
  /-- The directory that models are written into. -/
  modelDirectory : Option String
deriving DecidableEq, Repr

structure ServiceCheck where
  source : ServiceSource
  diagnostics : List Diagnostic := []
  /-- Why the check ended early, where no finding says so. -/
  failure : Option String := none
deriving DecidableEq, Repr

namespace ServiceCheck

variable (check : ServiceCheck)

def findings (severity : Severity) : List Diagnostic :=
  check.diagnostics.filter (·.severity = severity)

def isValid : Bool := (check.findings .error).isEmpty && check.failure.isNone

end ServiceCheck

structure CheckReport where
  inputDirectory : String
  services : List ServiceCheck
deriving DecidableEq, Repr

def CheckReport.isValid (report : CheckReport) : Bool := report.services.all ServiceCheck.isValid

namespace Check

variable {m : Type → Type} [Monad m] [Disk m]

/-- Writes a model into a directory. If that fails, the reason is given. -/
def writeModel (directory : String) (service : Service) : m (Option String) := do
  let path := Path.join directory (service.fileName ++ ".json")
  match ← (writeText path service.toJson.render : ExceptT DiskError m Unit).run with
  | .ok () => return none
  | .error error => return some s!"Failed to write {path}: {error.message}"

/-- Writes down the model of a service if that is asked for. -/
def keepModel (options : CheckOptions) (context : Context) : m (Option String) :=
  match options.modelDirectory, context.service with
  | some directory, some service => writeModel directory service
  | _, _ => pure none

def service (options : CheckOptions) (mappings : ServiceMappings) (source : ServiceSource) :
    m ServiceCheck := do
  match ← (source.load options.useSwagger).run with
  | .error error => return { source, failure := some error.message }
  | .ok input =>
    let run := (generationPipeline mappings).run (.start input)
    let failure ← match run.failure with
      | some failure => pure (some failure.text)
      | none => keepModel options run.context
    let hasErrors := !run.context.faults.isEmpty
    return {
      source
      diagnostics := run.context.diagnostics
      failure := if hasErrors then none else failure }

end Check

/-- Checks the services below a directory. -/
def check {m : Type → Type} [Monad m] [Disk m] (options : CheckOptions) :
    ExceptT RunError m CheckReport := do
  let sources ← Generation.discover options.inputDirectory
  let mappings ← Generation.loadMappings options.serviceMapping
  match options.modelDirectory with
  | none => pure ()
  | some directory =>
    Generation.require (fun _ => .unwritable directory) (makeDirectories directory)
  let services ← (sources.mapM (Check.service options mappings) : m (List ServiceCheck))
  return { inputDirectory := options.inputDirectory, services }

end ODataClient
