import ODataClient.Name.Basic

/-!
# Naming conventions

How a target language spells each kind of name, which words it keeps for itself, and which type
names the generated code needs from its runtime.
-/

namespace ODataClient

/-- The spelling rules of a target language. -/
structure NamingConvention where
  /-- The case of types. -/
  typeCase : String → String
  /-- The case of instance members, functions and parameters. -/
  memberCase : String → String
  /-- The case of constants. -/
  constantCase : String → String
  /-- The case of directories and packages. -/
  directoryCase : String → String
  /-- The words that no identifier may be. -/
  reservedWords : List String
  /-- The spelling of a reserved word that is wanted as a name. -/
  escapeReserved : String → NameKind → String
  /-- The type names that generated types leave to the runtime. -/
  runtimeTypes : List String

namespace NamingConvention

variable (convention : NamingConvention)

/-- Whether the language keeps the word for itself, in just this spelling. -/
def isReserved (name : String) : Bool :=
  convention.reservedWords.contains name

/-- The name, escaped if the language keeps it for itself. -/
def escape (name : String) (kind : NameKind) : String :=
  if convention.isReserved name then convention.escapeReserved name kind else name

/-- The name in the case of its kind. -/
def recase (name : String) : NameKind → String
  | .type => convention.typeCase name
  | .staticMember => convention.constantCase name
  | .directory => convention.directoryCase name
  | .instanceMember | .factory | .function | .parameter => convention.memberCase name

/-- The identifier that the language's rules make of a name. -/
def identifier (name : String) (kind : NameKind) : String :=
  convention.escape (convention.recase name kind) kind

end NamingConvention

end ODataClient
