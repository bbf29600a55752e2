/-!
# Kinds of names

What a generated identifier names, which kinds of names share one space in the generated code,
and why a name may be refused.
-/

namespace ODataClient

/-- What a generated identifier names. -/
inductive NameKind where
  /-- A class, interface or namespace. -/
  | type
  /-- A field of a class instance. -/
  | instanceMember
  /-- A constant that describes a field. -/
  | staticMember
  /-- A function that makes a complex value. -/
  | factory
  /-- A function that calls a function import. -/
  | function
  /-- The directory and package of a service. -/
  | directory
  /-- A parameter of a function. -/
  | parameter
deriving DecidableEq, Repr

def NameKind.label : NameKind → String
  | .type => "class"
  | .instanceMember => "instance property"
  | .staticMember => "static property"
  | .factory => "factory"
  | .function => "function"
  | .directory => "module"
  | .parameter => "parameter"

/-- The spaces within which generated names are kept apart. -/
inductive NameSpace where
  | types
  | instanceMembers
  | staticMembers
  | callables
  | directories
  | parameters
deriving DecidableEq, Repr

/-- The space of a kind of name. Factories and functions share one: both are top-level functions. -/
def NameKind.space : NameKind → NameSpace
  | .type => .types
  | .instanceMember => .instanceMembers
  | .staticMember => .staticMembers
  | .factory | .function => .callables
  | .directory => .directories
  | .parameter => .parameters

/-- Why a name is refused. -/
inductive NameError where
  /-- The candidate and all its numbered variants are taken. -/
  | exhausted (service : String) (kind : NameKind) (key candidate : String) (limit : Nat)
  /-- The name was asked for explicitly, and another construct holds it. -/
  | overrideTaken (service : String) (kind : NameKind) (key name : String)
deriving DecidableEq, Repr

namespace NameError

def message : NameError → String
  | exhausted service kind key candidate limit =>
    s!"no free {kind.label} name for '{key}' in '{service}': '{candidate}' and its {limit} " ++
      "suffixed variants are taken"
  | overrideTaken service kind key name =>
    s!"{kind.label} name '{name}' requested for '{key}' in '{service}' is already taken"

def code : NameError → String
  | exhausted .. => "vdmgen::names::exhausted"
  | overrideTaken .. => "vdmgen::names::override_taken"

def help : NameError → String
  | exhausted .. => "rename the colliding constructs in the metadata"
  | overrideTaken .. => "choose a different name in the service mapping"

end NameError

end ODataClient
