import ODataClient.Lint
import ODataClient.Model.Service
import ODataClient.Pipeline.Context
import ODataClient.Schema.Merge

/-!
# The phases of the work on a service

Its documents are read, its schema is checked, and its model is built.
-/

namespace ODataClient

/-- What a step makes of a context: the next context, and why the work ends, if it does. -/
structure Outcome where
  context : Context
  failure : Option Failure

namespace Outcome

def proceed (context : Context) : Outcome := { context, failure := none }

def stop (context : Context) (failure : Failure) : Outcome :=
  { context, failure := some failure }

end Outcome

structure Phase where
  name : String
  description : String
  run : Context → Outcome

namespace Phase

/-- Reads the documents. A failure leaves the context as it was. -/
def parse : Phase where
  name := "parse"
  description := "Parse and merge the EDMX documents of the service"
  run context :=
    match Schema.parse context.input.documents with
    | .ok schema => .proceed { context with schema := some schema }
    | .error error => .stop context (.schema error)

/-- Checks the schema. All findings are kept, and the phase fails if any fault has been found, be
it in this phase or before. -/
def validate (lints : List Lint) : Phase where
  name := "validate"
  description := "Check schema integrity and collect diagnostics"
  run context :=
    match context.requireSchema with
    | .error failure => .stop context failure
    | .ok schema =>
      let findings := lints.flatMap (·.check schema)
      let checked := { context with diagnostics := context.diagnostics ++ findings }
      if checked.faults.isEmpty then .proceed checked
      else .stop checked (.invalid checked.faults)

/-- Builds the model. A failure leaves the context as it was. -/
def build (language : TargetLanguage) : Phase where
  name := "build"
  description := "Resolve names and types into the service model"
  run context :=
    match context.requireSchema with
    | .error failure => .stop context failure
    | .ok schema =>
      let { fileName, mapping, swagger, .. } := context.input
      match Model.build language { schema, fileName, mapping, swagger } with
      | .error error => .stop context (.build error)
      | .ok (service, findings) =>
        .proceed { context with
          service := some service
          diagnostics := context.diagnostics ++ findings }

end Phase

end ODataClient
