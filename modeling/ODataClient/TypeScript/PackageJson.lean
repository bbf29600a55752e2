import ODataClient.Dictionary
import ODataClient.Json.Printer
import ODataClient.TypeScript.Types

/-!
# Package descriptions

The `package.json` and `tsconfig.json` of generated packages.
-/

namespace ODataClient.TypeScript

/-- The description of a package. -/
structure PackageJson where
  name : String
  version : String
  description : String := ""
  homepage : Option String := none
  /-- The versions of the packages that it depends on. -/
  dependencies : Dictionary String := []
deriving DecidableEq, Repr

/-- The version of the runtime that generated code is made for. -/
def coreVersion : String := "^1.17.2"

/-- The version of the compiler that generated code is made for. -/
def compilerVersion : String := "~3.8.3"

namespace PackageJson

/-- The description of the package of a service. -/
def service (name version fileName : String) : PackageJson where
  name
  version
  description := "Typed client for the OData service " ++ fileName
  dependencies := [(coreModule, coreVersion)]

/-- The description of a package that brings several packages together. -/
def aggregator (name version : String) (packages : List String) : PackageJson where
  name
  version
  description := "Typed clients for a set of OData services"
  dependencies := Dictionary.ofEntries (packages.map fun package => (package, "^" ++ version))

variable (package : PackageJson)

def toJson : Json :=
  let texts (entries : List (String × String)) : Json :=
    .object (entries.map fun (key, value) => (key, .text value))
  .object <| [
    ("name", .text package.name),
    ("version", .text package.version),
    ("description", .text package.description)]
    ++ package.homepage.toList.map (fun homepage => ("homepage", Json.text homepage))
    ++ [
      ("main", .text "./index.js"),
      ("types", .text "./index.d.ts"),
      ("publishConfig", texts [("access", "public")]),
      ("scripts", texts [("compile", "npx tsc")]),
      ("dependencies", texts package.dependencies),
      ("devDependencies", texts [("typescript", compilerVersion)])]

def render : String := package.toJson.render ++ "\n"

end PackageJson

/-- The options of the compiler for a generated package. -/
def tsConfig : String :=
  "\n".intercalate [
    "\x7b",
    "  \"compilerOptions\": \x7b",
    "    \"target\": \"es5\",",
    "    \"module\": \"commonjs\",",
    "    \"lib\": [\"esnext\"],",
    "    \"declaration\": true,",
    "    \"declarationMap\": true,",
    "    \"sourceMap\": true,",
    "    \"diagnostics\": true,",
    "    \"moduleResolution\": \"node\",",
    "    \"esModuleInterop\": true,",
    "    \"inlineSources\": false,",
    "    \"strict\": true,",
    "    \"noImplicitAny\": false,",
    "    \"typeRoots\": [\"node_modules/@types\"]",
    "  \x7d,",
    "  \"include\": [\"**/*.ts\"],",
    "  \"exclude\": [\"node_modules\", \"**/*.d.ts\"]",
    "\x7d"] ++ "\n"

end ODataClient.TypeScript
