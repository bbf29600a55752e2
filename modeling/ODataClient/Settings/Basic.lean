import ODataClient.Disk.Basic
import ODataClient.Disk.Path
import ODataClient.Settings.Line

/-!
# Settings

What may be chosen about generation in a file. A path in it is taken from the directory of the
file.
-/

namespace ODataClient

structure Settings where
  inputDirectory : Option String := none
  outputDirectory : Option String := none
  serviceMapping : Option String := none
  useSwagger : Bool := false
  replace : Bool := false
  withPackageJson : Bool := false
  changelog : Option String := none
  aggregatorName : Option String := none
  aggregatorDirectory : Option String := none
  version : Option String := none
deriving DecidableEq, Repr

/-- Why a settings file is refused. -/
inductive SettingsError where
  | unreadable (path : String)
  | malformed (path : String)
deriving DecidableEq, Repr

def SettingsError.message : SettingsError → String
  | unreadable path => s!"Failed to read config file {path}"
  | malformed path => s!"Invalid config file {path}"

namespace Settings

/-- A setting with its name. -/
abbrev Setting := String × Value

/-- The setting that an entry of a table makes. -/
def setting? : Entry → Option Setting
  | ([name], value) => some (name, value)
  | _ => none

def names : List String :=
  ["input-dir", "output-dir", "service-mapping", "use-swagger", "force-overwrite",
    "generate-package-json", "changelog-file", "aggregator-npm-package-name",
    "aggregator-directory-name", "version-in-package-json"]

/-- The settings in the value of `generator`: a table, or an array of all of them in the order of
their names. What an array holds beyond them does not count. -/
def ofGenerator? : Value → Option (List Setting)
  | .table entries => entries.mapM setting?
  | .array values => if names.length ≤ values.length then some (names.zip values) else none
  | _ => none

/-- The settings in the table `generator`, the only one there may be. They are given below its name,
as its value, or each by its full name. -/
def generatorSettings? (lines : List Line) : Option (List Setting) :=
  match lines.span Line.isAssignment with
  | ([.assignment ["generator"] value], []) => ofGenerator? value
  | (assignments, []) => assignments.mapM fun
    | .assignment ["generator", name] value => some (name, value)
    | _ => none
  | ([], .table ["generator"] :: lines) => lines.mapM fun
    | .assignment [name] value => some (name, value)
    | _ => none
  | _ => none

/-- The text of a setting, if it is made. -/
def text? (settings : List Setting) (name : String) : Option (Option String) :=
  match settings.lookup name with
  | none => some none
  | some (.text value) => some (some value)
  | some _ => none

/-- Whether a setting is made and true. -/
def isSet? (settings : List Setting) (name : String) : Option Bool :=
  match settings.lookup name with
  | none => some false
  | some (.bool value) => some value
  | some _ => none

/-- The settings that are made, each of which must have a known name of its own. -/
def ofList? (settings : List Setting) : Option Settings := do
  guard (settings.map Prod.fst).Nodup
  guard (settings.all fun (name, _) => names.contains name)
  return {
    inputDirectory := ← text? settings "input-dir"
    outputDirectory := ← text? settings "output-dir"
    serviceMapping := ← text? settings "service-mapping"
    useSwagger := ← isSet? settings "use-swagger"
    replace := ← isSet? settings "force-overwrite"
    withPackageJson := ← isSet? settings "generate-package-json"
    changelog := ← text? settings "changelog-file"
    aggregatorName := ← text? settings "aggregator-npm-package-name"
    aggregatorDirectory := ← text? settings "aggregator-directory-name"
    version := ← text? settings "version-in-package-json" }

def parse? (text : String) : Option Settings :=
  ((lines? text).bind generatorSettings?).bind ofList?

/-- The settings with all paths taken from a directory. -/
def relativeTo (settings : Settings) (directory : String) : Settings :=
  { settings with
    inputDirectory := settings.inputDirectory.map (Path.join directory)
    outputDirectory := settings.outputDirectory.map (Path.join directory)
    serviceMapping := settings.serviceMapping.map (Path.join directory)
    changelog := settings.changelog.map (Path.join directory) }

variable {m : Type → Type} [Monad m] [Disk m]

def read (path : String) : ExceptT SettingsError m Settings := do
  match ← (readText path : ExceptT DiskError m String).run with
  | .error _ => throw (.unreadable path)
  | .ok text =>
    match parse? text with
    | some settings => return settings.relativeTo (Path.parent path)
    | none => throw (.malformed path)

/-- The file that is read if no other is named. -/
def defaultPath : String := "vdmgen.toml"

/-- Reads the settings in a file that is named, or else in the default file if there is one. -/
def load (path : Option String) : ExceptT SettingsError m Settings := do
  match path with
  | some path => read path
  | none =>
    let found ← (kind? defaultPath : m (Option NodeKind))
    if found.isSome then read defaultPath else return {}

end Settings

end ODataClient
