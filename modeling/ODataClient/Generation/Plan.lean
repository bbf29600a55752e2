import ODataClient.Generation.Fault
import ODataClient.Pipeline.Basic
import ODataClient.TypeScript.Package

/-!
# Plans of generation

What is to be written for a number of services: the files of each service whose client can be
generated and that has a directory of its own, the mapping that keeps their names, and a package
that brings them together.
-/

namespace ODataClient

/-- A package that brings the packages of all services together. -/
structure Aggregator where
  npmPackageName : String
  directoryName : String
deriving DecidableEq, Repr

/-- A service whose client has been generated in memory. -/
structure GeneratedService where
  service : Service
  files : List TypeScript.OutputFile
  /-- The warnings given on the way. -/
  warnings : List Diagnostic

/-- A service whose client is not generated. -/
structure ServiceFailure where
  fileName : String
  /-- The metadata file, or the directory that could not be written. -/
  path : String
  fault : ServiceFault

/-- The phases and plugins by which services are generated. -/
def generationPipeline (mappings : ServiceMappings) : Pipeline :=
  { Pipeline.standard TypeScript.language with plugins := [.serviceMapping mappings] }

/-- Generates the client of a service in memory. -/
def generateService (mappings : ServiceMappings) (options : TypeScript.PackageOptions)
    (input : ServiceInput) : Except ServiceFault GeneratedService :=
  match (generationPipeline mappings).model input with
  | .error failure => .error (.failed failure)
  | .ok (service, diagnostics) =>
    match TypeScript.package service options with
    | .error error => .error (.notGenerated error)
    | .ok files => .ok { service, files, warnings := diagnostics.filter Diagnostic.isWarning }

/-- A metadata file with what came of it. -/
abbrev Attempt := ServiceSource × Except ServiceFault GeneratedService

structure Selection where
  claims : DirectoryClaims := []
  accepted : List GeneratedService := []
  failures : List ServiceFailure := []

namespace Selection

def reject (selection : Selection) (source : ServiceSource) (fault : ServiceFault) : Selection :=
  let failure : ServiceFailure := { fileName := source.fileName, path := source.path, fault }
  { selection with failures := selection.failures ++ [failure] }

/-- Accepts a service, unless its client could not be generated or its directory is in use. -/
def add (selection : Selection) : Attempt → Selection
  | (source, .error fault) => selection.reject source fault
  | (source, .ok generated) =>
    match selection.claims.claim generated.service with
    | .error error => selection.reject source (.duplicateDirectory error)
    | .ok claims => { selection with claims, accepted := selection.accepted ++ [generated] }

/-- The services that are accepted of those attempted. -/
def ofAttempts (attempts : List Attempt) : Selection :=
  attempts.foldl add {}

variable (selection : Selection)

def services : List Service := selection.accepted.map GeneratedService.service

def warnings : List String :=
  selection.accepted.flatMap fun generated =>
    generated.warnings.map fun warning => s!"{generated.service.fileName}: {warning.text}"

def mappingFileName : String := "service-mapping.json"

/-- The text of the file with the mapping of the services, if there are any. -/
def mappingText? : Option String :=
  if selection.accepted.isEmpty then none
  else some (ServiceMappings.ofServices selection.services).render

/-- The file of the package that brings the packages of the services together. -/
def aggregatorFile (aggregator : Aggregator) (options : TypeScript.PackageOptions) :
    TypeScript.OutputFile :=
  TypeScript.aggregatorFile aggregator.directoryName aggregator.npmPackageName
    (selection.services.map (·.npmPackageName)) options

/-- The files that belong to no single service. -/
def sharedFiles (aggregator : Option Aggregator) (options : TypeScript.PackageOptions) :
    List TypeScript.OutputFile :=
  selection.mappingText?.toList.map (fun text => ⟨mappingFileName, .text text⟩) ++
    aggregator.toList.map fun aggregator => selection.aggregatorFile aggregator options

end Selection

end ODataClient
