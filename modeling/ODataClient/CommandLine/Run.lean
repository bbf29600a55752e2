import ODataClient.CommandLine.Help
import ODataClient.Report.Check
import ODataClient.Report.Generation
import ODataClient.Settings.Basic

/-!
# Runs of the program

What the program does for given arguments: it generates clients, checks metadata files, or prints
something about itself. Options win over the settings in a file.
-/

namespace ODataClient.CommandLine

/-- Why a command comes to no report. -/
inductive CommandError where
  | settings (error : SettingsError)
  | missingInput
  | missingOutput
  | run (error : RunError)
deriving DecidableEq, Repr

def CommandError.message : CommandError → String
  | settings error => error.message
  | missingInput => "No input directory given, pass --input-dir"
  | missingOutput => "No output directory given, pass --output-dir"
  | run error => error.message

/-- How a run of the program ends. -/
inductive Ending where
  /-- With a report, about a success or not. -/
  | reported (lines : List ReportLine) (isSuccess : Bool)
  | failed (error : CommandError)
  | refused (error : UsageError)
deriving DecidableEq, Repr

namespace Ending

/-- The exit code: one for a failure, two for arguments that are refused. -/
def exitCode : Ending → Nat
  | reported _ isSuccess => if isSuccess then 0 else 1
  | failed _ => 1
  | refused _ => 2

def lines : Ending → List ReportLine
  | reported lines _ => lines
  | failed error => [.notice ("Error: " ++ error.message)]
  | refused error =>
    [.notice ("error: " ++ error.message), .notice "",
      .notice "For more information, try '--help'."]

/-- A text that was asked for. -/
def text (text : String) : Ending := reported [.result text] true

end Ending

def version : String := "0.1.0"

/-- The package that brings all packages together, if options or settings name one. -/
def aggregator (arguments : Arguments) (settings : Settings) : Option Aggregator := do
  let name ← (arguments.value? "aggregator-npm-package-name").or settings.aggregatorName
  let directory :=
    (arguments.value? "aggregator-directory-name").or settings.aggregatorDirectory
  return { npmPackageName := name, directoryName := directory.getD name }

variable {m : Type → Type} [Monad m] [Disk m]

/-- The file with the mappings of services that is read if no other is named. -/
def defaultMapping (inputDirectory : String) : m (Option String) := do
  let path := Path.join inputDirectory Selection.mappingFileName
  return if ← isFile path then some path else none

/-- The file with the mappings of services: one that is named, or else the default one. -/
def mappingFile (named : Option String) (inputDirectory : String) : m (Option String) :=
  match named with
  | some path => pure (some path)
  | none => defaultMapping inputDirectory

/-- What is chosen about generation by options and settings. -/
def generationOptions (arguments : Arguments) (settings : Settings) :
    ExceptT CommandError m GenerationOptions := do
  let some inputDirectory := (arguments.value? "input-dir").or settings.inputDirectory
    | throw .missingInput
  let some outputDirectory := (arguments.value? "output-dir").or settings.outputDirectory
    | throw .missingOutput
  let named := (arguments.value? "service-mapping").or settings.serviceMapping
  let serviceMapping ← (mappingFile named inputDirectory : m (Option String))
  return {
    inputDirectory
    outputDirectory
    serviceMapping
    useSwagger := arguments.has "use-swagger" || settings.useSwagger
    replace := arguments.has "force-overwrite" || settings.replace
    package := {
      withPackageJson := arguments.has "generate-package-json" || settings.withPackageJson
      version := (arguments.value? "version-in-package-json").or settings.version }
    changelog := (arguments.value? "changelog-file").or settings.changelog
    aggregator := aggregator arguments settings
    isDryRun := arguments.has "dry-run" }

def runGenerate (arguments : Arguments) : ExceptT CommandError m Ending := do
  let settings ← (Settings.load (arguments.value? "config") : ExceptT SettingsError m _).adapt
    CommandError.settings
  let options ← generationOptions arguments settings
  let report ← (generate options : ExceptT RunError m _).adapt CommandError.run
  return .reported report.lines report.isSuccess

def runCheck (arguments : Arguments) : ExceptT CommandError m Ending := do
  let inputDirectory := (arguments.value? "input-dir").getD ""
  let named := arguments.value? "service-mapping"
  let serviceMapping ← (mappingFile named inputDirectory : m (Option String))
  let options : CheckOptions :=
    { inputDirectory
      serviceMapping
      useSwagger := arguments.has "use-swagger"
      modelDirectory := arguments.value? "dump-model" }
  let report ← (check options : ExceptT RunError m _).adapt CommandError.run
  return .reported report.lines report.isValid

def runCommand (form : CommandForm) (arguments : Arguments) : ExceptT CommandError m Ending :=
  if form = generateForm then runGenerate arguments
  else if form = checkForm then runCheck arguments
  else pure (.text (completionScript (arguments.operand.getD "")))

def run (texts : List String) : m Ending := do
  match read texts with
  | .error (.help form) => return .text form.help
  | .error .version => return .text s!"{programForm.name} {version}"
  | .error (.refused error) => return .refused error
  | .ok (form, arguments) =>
    match ← (runCommand form arguments).run with
    | .ok ending => return ending
    | .error error => return .failed error

end ODataClient.CommandLine
