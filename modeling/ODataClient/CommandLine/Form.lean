/-!
# Forms of commands

The commands that there are, with their options and operands.
-/

namespace ODataClient.CommandLine

/-- What the value of an option is. -/
inductive ValueKind where
  /-- A path, which is not empty. -/
  | path
  | text
deriving DecidableEq, Repr

structure OptionForm where
  name : String
  letter : Option Char := none
  /-- What is given with the option, if anything. -/
  value : Option ValueKind := none
  summary : String
deriving DecidableEq, Repr

/-- An operand of a command, which must be one of a few words. -/
structure OperandForm where
  name : String
  choices : List String
  summary : String
deriving DecidableEq, Repr

structure CommandForm where
  name : String
  summary : String
  options : List OptionForm
  operand : Option OperandForm := none
  /-- The options that must be given. -/
  required : List String := []
  /-- Options that must be given with others. -/
  dependent : List (String × String) := []
deriving DecidableEq, Repr

/-- The options that choose how much is logged, of which at most one is given to a command. -/
def loggingOptions : List OptionForm := [
  { name := "verbose", letter := some 'v', summary := "Log debug output" },
  { name := "quiet", letter := some 'q', summary := "Only log warnings and errors" }]

def helpOption : OptionForm :=
  { name := "help", letter := some 'h', summary := "Print help" }

def versionOption : OptionForm :=
  { name := "version", letter := some 'V', summary := "Print version" }

/-- The option for the directory with the metadata files. -/
def inputOption : OptionForm where
  name := "input-dir"
  letter := some 'i'
  value := some .path
  summary := "Directory searched recursively for *.edmx and *.xml files"

/-- The option for the file with the mappings of services. -/
def mappingOption : OptionForm where
  name := "service-mapping"
  letter := some 's'
  value := some .path
  summary := "Service mapping file (defaults to <input-dir>/service-mapping.json)"

/-- The option to read Swagger documents. -/
def swaggerOption : OptionForm where
  name := "use-swagger"
  summary := "Read <name>.json Swagger files next to the metadata documents"

/-- The program itself, whose options come before a command. -/
def programForm : CommandForm where
  name := "vdmgen"
  summary := "Generate TypeScript client packages from OData service metadata"
  options := loggingOptions ++ [helpOption, versionOption]

def generateForm : CommandForm where
  name := "generate"
  summary := "Generate one TypeScript package per metadata document"
  options := [
    inputOption,
    { name := "output-dir", letter := some 'o', value := some .path
      summary := "Directory the service packages are written to" },
    mappingOption,
    swaggerOption,
    { name := "force-overwrite", summary := "Replace files that already exist" },
    { name := "generate-package-json", summary := "Write a package.json for every service" },
    { name := "changelog-file", value := some .path
      summary := "Copied into every service and aggregator directory" },
    { name := "aggregator-npm-package-name", value := some .text
      summary := "Also generate a package depending on all service packages" },
    { name := "aggregator-directory-name", value := some .text
      summary := "Directory of the aggregator package (defaults to its package name)" },
    { name := "version-in-package-json", value := some .text
      summary := "Version written to generated package.json files" },
    { name := "dry-run", summary := "Print the generated files instead of writing them" },
    { name := "config", letter := some 'c', value := some .path
      summary := "Configuration file (defaults to ./vdmgen.toml when present)" }] ++
    loggingOptions ++ [helpOption]
  dependent := [("aggregator-directory-name", "aggregator-npm-package-name")]

def checkForm : CommandForm where
  name := "check"
  summary := "Validate metadata documents without generating code"
  options := [
    inputOption,
    mappingOption,
    swaggerOption,
    { name := "dump-model", value := some .path
      summary := "Write each built service model as JSON into this directory" }] ++
    loggingOptions ++ [helpOption]
  required := ["input-dir"]

/-- The command that prints what a shell needs to complete arguments. -/
def completionsForm : CommandForm where
  name := "completions"
  summary := "Generate shell completions"
  options := loggingOptions ++ [helpOption]
  operand := some {
    name := "shell"
    choices := ["bash", "elvish", "fish", "powershell", "zsh"]
    summary := "Shell to generate completions for" }

/-- The command that prints help, about the program or about another command. -/
def helpForm : CommandForm where
  name := "help"
  summary := "Print this message or the help of the given subcommand(s)"
  options := []

def commandForms : List CommandForm := [generateForm, checkForm, completionsForm, helpForm]

def commandForm? (name : String) : Option CommandForm := commandForms.find? (·.name = name)

end ODataClient.CommandLine
