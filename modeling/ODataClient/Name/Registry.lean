import ODataClient.Name.Convention
import ODataClient.Name.Source

/-!
# The registry of names

Every identifier of a generated service is handed out by one registry, so that no two constructs
get the same name where both could be meant. Names are kept apart within a scope: the members of
one type, the parameters of one function, and everything else within the service. The first
construct to ask for a name keeps it; later ones get `_1`, `_2`, … behind it. Asking again for the
same construct gives the same name.
-/

namespace ODataClient.Name

/-- The constructs among which names are kept apart. An empty owner stands for the service. -/
structure Scope where
  space : NameSpace
  owner : String
deriving DecidableEq, Repr

/-- One construct that has a name. -/
structure Slot where
  kind : NameKind
  owner : String
  key : String
deriving DecidableEq, Repr

/-- The scope in which the name of a construct is kept apart from others. -/
def Slot.scope (slot : Slot) : Scope where
  space := slot.kind.space
  owner := slot.owner

/-- A request for the name of a construct: either an explicit name or one made from `source`. -/
structure Request where
  slot : Slot
  source : String
  explicit : Option String := none
deriving DecidableEq, Repr

namespace Request

/-- Asks for a name of the service that is made from the key itself. -/
def ofKey (kind : NameKind) (key : String) (explicit : Option String) : Request where
  slot := { kind, owner := "", key }
  source := key
  explicit

def entityClass (entitySet : String) (allSets : List String) : Request where
  slot := { kind := .type, owner := "", key := entitySet }
  source := entityClassSource entitySet allSets

/-- Asks for the type of a complex type, known by its qualified name. -/
def complexType (qualifiedName name : String) : Request where
  slot := { kind := .type, owner := "", key := qualifiedName }
  source := withoutTypeMark name

/-- Asks for the factory of a complex type whose type has the given name. -/
def factory (qualifiedName typeName : String) : Request where
  slot := { kind := .factory, owner := "", key := qualifiedName }
  source := "create" ++ typeName

def function (name : String) : Request :=
  ofKey .function name none

/-- Asks for the type that collects the parameters of a function import. It is kept under the
name with brackets, which no entity set or complex type has. -/
def parametersType (name functionName : String) : Request where
  slot := { kind := .type, owner := "", key := name ++ "()" }
  source := functionName ++ "Parameters"

/-- Asks for a member or parameter of `owner`. -/
def member (kind : NameKind) (owner name : String) : Request where
  slot := { kind, owner, key := name }
  source := name

/-- Asks for the directory of the service, which may be given explicitly. -/
def directory (readableName : String) (explicit : Option String) : Request :=
  ofKey .directory readableName explicit

end Request

/-- How many numbered variants of a candidate are tried. -/
def ordinalLimit : Nat := 99

/-- A candidate and its numbered variants, in the order in which they are tried. -/
def variants (candidate : String) : List String :=
  candidate :: (List.range' 1 ordinalLimit).map fun ordinal => s!"{candidate}_{ordinal}"

/-- The names of one scope. -/
structure Bucket where
  /-- The names in use. -/
  taken : List String := []
  /-- The constructs that have a name. -/
  resolved : List (Slot × String) := []

/-- The names handed out for one service. -/
structure Registry where
  /-- The service, for messages. -/
  service : String
  /-- The rules that names are spelled by. -/
  convention : NamingConvention
  /-- The names of each scope that has been opened. -/
  buckets : Scope → Option Bucket

namespace Registry

/-- A registry in which only the type names of the runtime are in use. -/
def empty (service : String) (convention : NamingConvention) : Registry where
  service
  convention
  buckets scope :=
    if scope = { space := .types, owner := "" } then some { taken := convention.runtimeTypes }
    else none

variable (registry : Registry)

/-- The bucket of a scope, which is empty as long as the scope has not been opened. -/
def bucket (scope : Scope) : Bucket :=
  (registry.buckets scope).getD {}

/-- Puts a bucket in the place of that of a scope. -/
def setBucket (scope : Scope) (bucket : Bucket) : Registry :=
  { registry with
    buckets := fun other => if other = scope then some bucket else registry.buckets other }

/-- Makes sure that a scope has a bucket. -/
def opened (scope : Scope) : Registry :=
  registry.setBucket scope (registry.bucket scope)

def isTaken (scope : Scope) (name : String) : Bool :=
  (registry.bucket scope).taken.contains name

def lookup (slot : Slot) : Option String :=
  (registry.bucket slot.scope).resolved.lookup slot

/-- Puts a name into use in a scope without giving it to a construct. -/
def reserve (scope : Scope) (name : String) : Registry :=
  let bucket := registry.bucket scope
  registry.setBucket scope { bucket with taken := name :: bucket.taken }

def assign (slot : Slot) (name : String) : Registry :=
  let bucket := registry.bucket slot.scope
  registry.setBucket slot.scope {
    taken := name :: bucket.taken
    resolved := (slot, name) :: bucket.resolved }

/-- The name for a construct that has none yet: the explicit one, or the first free variant. -/
def choose (request : Request) : Except NameError String :=
  let slot := request.slot
  match request.explicit with
  | some name =>
    if registry.isTaken slot.scope name then
      .error (.overrideTaken registry.service slot.kind slot.key name)
    else .ok name
  | none =>
    let candidate := registry.convention.identifier request.source slot.kind
    match (variants candidate).find? fun name => !registry.isTaken slot.scope name with
    | some name => .ok name
    | none => .error (.exhausted registry.service slot.kind slot.key candidate ordinalLimit)

/-- Answers a request, giving the construct a name unless it has one. The scope is opened before
it is known whether the request can be answered. -/
def resolve (request : Request) : Except NameError (String × Registry) :=
  let registry := registry.opened request.slot.scope
  match registry.lookup request.slot with
  | some name => .ok (name, registry)
  | none => (registry.choose request).map fun name => (name, registry.assign request.slot name)

end Registry

end ODataClient.Name
