import ODataClient.Model.Build
import ODataClient.Schema.Source
import ODataClient.Schema.Error
import ODataClient.Service.Basic

/-!
# The state of a service on its way to a model

What is known about one service while its metadata are read, checked and turned into a model, and
why that may end early.
-/

namespace ODataClient

/-- Everything given about one service. -/
structure ServiceInput where
  /-- The name of the metadata file without its ending. -/
  fileName : String
  documents : List Source
  /-- What has been chosen for the service. -/
  mapping : Option ServiceMapping
  swagger : Option Swagger

/-- What is known about one service. -/
structure Context where
  input : ServiceInput
  /-- The schema, once the documents have been read. -/
  schema : Option Schema
  /-- The model, once it has been built. -/
  service : Option Service
  diagnostics : List Diagnostic

/-- Why the work on a service ends without a model. -/
inductive Failure where
  | schema (error : SchemaError)
  | build (error : BuildError)
  /-- The schema has the faults listed. -/
  | invalid (faults : List Diagnostic)
  /-- A schema is needed and has not been read. -/
  | missingSchema
  /-- A model is needed and has not been built. -/
  | missingService
  /-- A plugin ends the work with a message of its own. -/
  | refused (message : String)

def Failure.message : Failure → String
  | schema error => error.message
  | build error => error.message
  | invalid faults =>
    s!"validation failed with {faults.length} error(s):\n  " ++
      "\n  ".intercalate (faults.map Diagnostic.text)
  | missingSchema => "raw schema not set, did the parse phase run?"
  | missingService => "service model not set, did the build phase run?"
  | refused message => message

namespace Context

/-- The context from which the work on a service starts. -/
def start (input : ServiceInput) : Context :=
  { input, schema := none, service := none, diagnostics := [] }

variable (context : Context)

def faults : List Diagnostic := context.diagnostics.filter Diagnostic.isError

def warnings : List Diagnostic := context.diagnostics.filter Diagnostic.isWarning

/-- The schema, which must have been read. -/
def requireSchema : Except Failure Schema :=
  match context.schema with
  | some schema => .ok schema
  | none => .error .missingSchema

/-- Takes the model, which must have been built, out of the context. -/
def takeService : Except Failure (Service × Context) :=
  match context.service with
  | some service => .ok (service, { context with service := none })
  | none => .error .missingService

end Context

end ODataClient
