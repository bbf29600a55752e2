import ODataClient.Generation.Source
import ODataClient.Pipeline.Context
import ODataClient.Report.Wrap
import ODataClient.Service.Directory

/-!
# Faults of services

Why the client of a service is not generated, and what is printed about it. Errors with a code are
set out as a block with the code, the message and the advice.
-/

namespace ODataClient

/-- Why the client of a service is not generated. -/
inductive ServiceFault where
  | unloaded (error : LoadError)
  | failed (failure : Failure)
  /-- The model has a primitive type that there is nothing to generate for. -/
  | notGenerated (error : UnknownEdmType)
  | duplicateDirectory (error : DuplicateDirectory)
  | notWritten (error : DiskError)

/-- An error that is set out as a block. -/
structure ErrorBlock where
  code : String
  message : String
  help : Option String
deriving DecidableEq, Repr

namespace ErrorBlock

/-- The greatest number of characters in a line of a block. -/
def width : Nat := 198

def text (block : ErrorBlock) : String :=
  let help := match block.help with
    | some help => "\n" ++ Wrap.wrap (width - 2) "  help: " "        " help
    | none => ""
  block.code ++ "\n\n" ++ Wrap.wrap width "  × " "  │ " block.message ++ help

def ofModelError (error : ModelError) : ErrorBlock :=
  { code := error.code, message := error.message, help := error.help? }

def ofSchemaError (error : SchemaError) : ErrorBlock :=
  { code := error.code, message := error.message, help := error.help? }

def ofNameError (error : NameError) : ErrorBlock :=
  { code := error.code, message := error.message, help := some error.help }

def ofDuplicateDirectory (error : DuplicateDirectory) : ErrorBlock :=
  { code := DuplicateDirectory.code
    message := error.message
    help := some DuplicateDirectory.help }

end ErrorBlock

def Failure.text (failure : Failure) : String :=
  match failure with
  | schema error => (ErrorBlock.ofSchemaError error).text
  | build (.model error) => (ErrorBlock.ofModelError error).text
  | build (.name error) => (ErrorBlock.ofNameError error).text
  | invalid faults =>
    match faults.findSome? (·.cause) with
    | some cause => (ErrorBlock.ofModelError cause).text
    | none => failure.message
  | build (.typeReference _) | build (.edmType _) | missingSchema | missingService | refused _ =>
    failure.message

def ServiceFault.text : ServiceFault → String
  | unloaded error => error.message
  | failed failure => failure.text
  | notGenerated error => error.message
  | duplicateDirectory error => (ErrorBlock.ofDuplicateDirectory error).text
  | notWritten error => error.message

end ODataClient
