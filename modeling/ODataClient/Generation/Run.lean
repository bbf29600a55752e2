import ODataClient.Generation.Plan
import ODataClient.TypeScript.Output

/-!
# Generation

A run reads the metadata files below a directory, plans what is to be written, and writes it, or
shows it. A service that cannot be generated does not stop the others.
-/

namespace ODataClient

structure GenerationOptions where
  inputDirectory : String
  outputDirectory : String
  /-- The file with the mappings of services. -/
  serviceMapping : Option String
  useSwagger : Bool
  /-- Whether files that are there already are replaced. -/
  replace : Bool
  package : TypeScript.PackageOptions
  /-- The file that is copied beside every package. -/
  changelog : Option String
  aggregator : Option Aggregator
  /-- Whether the files are shown rather than written. -/
  isDryRun : Bool
deriving DecidableEq, Repr

/-- Why a run ends without a report. -/
inductive RunError where
  | missingInput (directory : String)
  | unreadableInput (directory : String)
  | unreadableMapping (path : String)
  | unwritableOutput (directory : String)
  | unwritable (directory : String)
  | disk (error : DiskError)
deriving DecidableEq, Repr

def RunError.message : RunError → String
  | missingInput directory => s!"Input directory {directory} does not exist"
  | unreadableInput directory => s!"Failed to read directory {directory}"
  | unreadableMapping path => s!"Failed to load service mapping {path}"
  | unwritableOutput directory => s!"Failed to create output directory {directory}"
  | unwritable directory => s!"Failed to create {directory}"
  | disk error => error.message

/-- What a run comes to. -/
inductive GenerationResult where
  | written (report : WriteReport)
  /-- The files that would be written. -/
  | shown (files : List TypeScript.OutputFile)

structure GenerationReport where
  outputDirectory : String
  services : List Service
  failures : List ServiceFailure
  warnings : List String
  result : GenerationResult

/-- Whether the client of every service was generated. -/
def GenerationReport.isSuccess (report : GenerationReport) : Bool := report.failures.isEmpty

namespace Generation

variable {m : Type → Type} [Monad m] [Disk m]

/-- Asks something of the disk whose refusal ends the run. -/
def require {α : Type} (reason : DiskError → RunError) (action : ExceptT DiskError m α) :
    ExceptT RunError m α :=
  action.adapt reason

/-- The metadata files below a directory. -/
def discover (directory : String) : ExceptT RunError m (List ServiceSource) := do
  if ← (isDirectory directory : m Bool) then
    return ServiceSource.ofFiles directory
      (← require (fun _ => .unreadableInput directory) (filesBelow directory))
  else throw (.missingInput directory)

/-- The mappings of services in a file. Without a file there are none. -/
def loadMappings (path : Option String) : ExceptT RunError m ServiceMappings := do
  match path with
  | none => return []
  | some path =>
    let text ← require (fun _ => .unreadableMapping path) (readText path)
    match ServiceMappings.parse path text with
    | .ok mappings => return mappings
    | .error _ => throw (.unreadableMapping path)

/-- Reads a metadata file and generates the client of its service in memory. -/
def attempt (options : GenerationOptions) (mappings : ServiceMappings) (source : ServiceSource) :
    m Attempt := do
  match ← (source.load options.useSwagger).run with
  | .error error => return (source, .error (.unloaded error))
  | .ok input => return (source, generateService mappings options.package input)

/-- What has been written so far. -/
structure Progress where
  report : WriteReport := {}
  failures : List ServiceFailure := []
  /-- The directories of the packages that have been written. -/
  directories : List String := []

/-- Puts two reports together. -/
def append (first second : WriteReport) : WriteReport where
  written := first.written ++ second.written
  skipped := first.skipped ++ second.skipped

/-- Writes the files of a service. If that fails, those written before stay. It is known before
whether the first of them is kept. -/
def writeService (options : GenerationOptions) (progress : Progress)
    (start : GeneratedService × Bool) : m Progress := do
  let (generated, isFirstKept) := start
  let directory := Path.join options.outputDirectory generated.service.directoryName
  let writing := TypeScript.writeFilesAfter options.outputDirectory options.replace isFirstKept
  match ← (writing generated.files).run with
  | .ok report =>
    return { progress with
      report := append progress.report report
      directories := progress.directories ++ [directory] }
  | .error error =>
    let failure : ServiceFailure :=
      { fileName := generated.service.fileName, path := directory, fault := .notWritten error }
    return { progress with failures := progress.failures ++ [failure] }

/-- Writes the files of services, which are all begun at the same time: the disk is asked for the
first file of each before any is written. -/
def writeServices (options : GenerationOptions) (services : List GeneratedService) :
    m Progress := do
  let kept ← services.mapM fun generated =>
    TypeScript.keepsFirst options.outputDirectory options.replace generated.files
  (services.zip kept).foldlM (writeService options) {}

/-- Writes the mapping of the services. It always takes the place of one that is there. -/
def writeMapping (options : GenerationOptions) (selection : Selection) :
    ExceptT DiskError m WriteReport := do
  match selection.mappingText? with
  | none => return {}
  | some text =>
    let name := Selection.mappingFileName
    let file : PlannedFile := { path := Path.join options.outputDirectory name, content := text }
    return WriteReport.add {} name (← file.write)

/-- Writes the package that brings the packages of the services together. -/
def writeAggregator (options : GenerationOptions) (selection : Selection) :
    ExceptT DiskError m WriteReport :=
  match options.aggregator with
  | none => pure {}
  | some aggregator =>
    TypeScript.writeFiles options.outputDirectory options.replace
      [selection.aggregatorFile aggregator options.package]

/-- Copies the changelog into a directory. If that fails, there is a warning. -/
def copyChangelog (changelog directory : String) : m (Option String) := do
  let target := Path.join directory "CHANGELOG.md"
  let copied : ExceptT DiskError m Unit := do
    makeDirectories directory
    copyFile changelog target
  match ← copied.run with
  | .ok () => return none
  | .error error => return some s!"could not copy {changelog} to {target}: {error.message}"

def write (options : GenerationOptions) (selection : Selection) :
    ExceptT RunError m (Progress × List String) := do
  require (fun _ => .unwritableOutput options.outputDirectory)
    (makeDirectories options.outputDirectory)
  let progress ← (writeServices options selection.accepted : m Progress)
  let mapping ← require .disk (writeMapping options selection)
  let aggregated ← require .disk (writeAggregator options selection)
  let directories := progress.directories ++ options.aggregator.toList.map fun aggregator =>
    Path.join options.outputDirectory aggregator.directoryName
  let warnings ← match options.changelog with
    | none => pure []
    | some changelog => (directories.mapM (copyChangelog changelog) : m (List (Option String)))
  let report := append (append progress.report mapping) aggregated
  return ({ progress with report }, warnings.filterMap id)

end Generation

open Generation in
/-- Generates the clients of the services below a directory. -/
def generate {m : Type → Type} [Monad m] [Disk m] (options : GenerationOptions) :
    ExceptT RunError m GenerationReport := do
  let sources ← discover options.inputDirectory
  let mappings ← loadMappings options.serviceMapping
  let attempts ← (sources.mapM (attempt options mappings) : m (List Attempt))
  let selection := Selection.ofAttempts attempts
  let report : GenerationReport :=
    { outputDirectory := options.outputDirectory
      services := selection.services
      failures := selection.failures
      warnings := selection.warnings
      result := .shown (selection.accepted.flatMap GeneratedService.files ++
        selection.sharedFiles options.aggregator options.package) }
  if options.isDryRun then return report
  let (progress, warnings) ← write options selection
  return { report with
    failures := report.failures ++ progress.failures
    warnings := report.warnings ++ warnings
    result := .written progress.report }

end ODataClient
