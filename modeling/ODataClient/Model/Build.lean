import ODataClient.Diagnostic
import ODataClient.Model.Error
import ODataClient.Name.Registry
import ODataClient.Schema.Basic
import ODataClient.ServiceMapping
import ODataClient.Swagger
import ODataClient.TargetLanguage

/-!
# Steps of model building

A service model is built in steps that hand out names and may report findings or fail. This module
holds what the steps start from, the state that they pass on, and the steps that everything else
is made of.
-/

namespace ODataClient

/-- What a service model is built from. -/
structure ModelInput where
  schema : Schema
  /-- The name of the metadata file without its ending. -/
  fileName : String
  /-- What has been chosen for the service. -/
  mapping : Option ServiceMapping
  swagger : Option Swagger
deriving DecidableEq, Repr

namespace ModelInput

variable (input : ModelInput)

/-- The description of a type: from the Swagger document, or else its label. -/
def describeType (ns type : String) (label : Option String) : String :=
  ((input.swagger.bind (·.typeDescription? ns type)).or label).getD ""

/-- The description of a property: from the Swagger document, or else its help text or its
label. -/
def describeProperty (ns type : String) (property : Schema.Property) : String :=
  (((input.swagger.bind (·.propertyDescription? ns type property.name)).or property.quickinfo).or
    property.label).getD ""

/-- Where the service is found on its host: as chosen, or as the Swagger document says, or in the
usual place. -/
def servicePath : String :=
  match input.mapping with
  | some mapping => mapping.servicePath
  | none => (input.swagger.bind (·.basePath)).getD s!"/sap/opu/odata/sap/{input.fileName}"

end ModelInput

/-- What the steps of model building pass on. -/
structure BuildState where
  registry : Name.Registry
  /-- The findings reported so far. -/
  findings : List Diagnostic

/-- A step of model building. -/
abbrev Build := StateT BuildState (Except BuildError)

namespace Build

/-- Fails because no consistent model can be made. -/
def fail {α : Type} (error : ModelError) : Build α :=
  throw (.model error)

/-- Goes on with a value that may be missing for the given reason. -/
def lift {ε α : Type} (reason : ε → BuildError) : Except ε α → Build α
  | .ok value => pure value
  | .error error => throw (reason error)

def name (request : Name.Request) : Build String := fun state =>
  match state.registry.resolve request with
  | .ok (name, registry) => .ok (name, { state with registry })
  | .error error => .error (.name error)

/-- The name that a construct has been given. -/
def nameOf? (slot : Name.Slot) : Build (Option String) := do
  return (← get).registry.lookup slot

/-- Puts a name into use without giving it to a construct. -/
def reserve (scope : Name.Scope) (name : String) : Build Unit :=
  modify fun state => { state with registry := state.registry.reserve scope name }

def report (finding : Diagnostic) : Build Unit :=
  modify fun state => { state with findings := state.findings ++ [finding] }

def typeReference (text : String) : Build TypeReference :=
  lift .typeReference (TypeReference.parse text)

/-- The appearance of a primitive type in the target language. -/
def primitive (language : TargetLanguage) (name : String) : Build PrimitiveMapping :=
  lift .edmType (language.primitive name)

/-- The names of a member of a class. -/
structure MemberNames where
  instanceName : String
  staticName : String
  /-- The name of the member where it is passed as a parameter. -/
  parameterName : String
deriving DecidableEq, Repr

/-- Names a member of the class `owner`. -/
def memberNames (owner name : String) : Build MemberNames := do
  return {
    instanceName := ← Build.name (.member .instanceMember owner name)
    staticName := ← Build.name (.member .staticMember owner name)
    parameterName := ← Build.name (.member .parameter owner name) }

/-- The class of an entity set, once it has been named. -/
def classOf? (set : Schema.EntitySet) : Build (Option String) :=
  nameOf? { kind := .type, owner := "", key := set.name }

end Build

end ODataClient
