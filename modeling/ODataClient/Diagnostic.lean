import ODataClient.Model.Error

/-!
# Findings about a service

What was found while the client of a service was made: faults that stop it, constructs that had to
be left out, and remarks.
-/

namespace ODataClient

/-- How serious a finding is. -/
inductive Severity where
  /-- The service is not generated. -/
  | error
  /-- Something is left out or looks wrong. -/
  | warning
  | info
deriving DecidableEq, Repr

def Severity.label : Severity → String
  | error => "error"
  | warning => "warning"
  | info => "info"

/-- A finding about a service. -/
structure Diagnostic where
  severity : Severity
  /-- The phase in which it was found. -/
  phase : String
  message : String
  /-- The construct that it is about. -/
  location : Option String
  /-- The model error behind it. -/
  cause : Option ModelError
deriving DecidableEq, Repr

namespace Diagnostic

/-- A fault without a model error behind it. -/
def error (phase message : String) : Diagnostic :=
  { severity := .error, phase, message, location := none, cause := none }

/-- Something that is left out or looks wrong. -/
def warning (phase message : String) : Diagnostic :=
  { severity := .warning, phase, message, location := none, cause := none }

def info (phase message : String) : Diagnostic :=
  { severity := .info, phase, message, location := none, cause := none }

/-- A fault with a model error behind it. -/
def ofModelError (phase : String) (cause : ModelError) : Diagnostic :=
  { error phase cause.message with cause := some cause }

variable (diagnostic : Diagnostic)

/-- The finding as one about the given construct. -/
def locatedAt (location : String) : Diagnostic :=
  { diagnostic with location := some location }

/-- Whether the finding stops the service. -/
def isError : Bool := diagnostic.severity = .error

def isWarning : Bool := diagnostic.severity = .warning

/-- The line that reports the finding. -/
def text : String :=
  let place := match diagnostic.location with
    | some location => s!" (at {location})"
    | none => ""
  s!"{diagnostic.severity.label}: {diagnostic.message}{place}"

end Diagnostic

end ODataClient
