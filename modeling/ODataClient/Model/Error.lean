import ODataClient.Edm
import ODataClient.Name.Basic
import ODataClient.Schema.TypeReference

/-!
# Errors of model building

Why no consistent model can be made of a schema.
-/

namespace ODataClient

/-- A schema that no consistent model can be made of. -/
inductive ModelError where
  /-- A complex type holds itself, by way of the types listed. -/
  | complexTypeCycle (cycle : List String)
  | unresolvedReturnType (function returnType : String)
  | unresolvedEntityType (entitySet entityType : String)
  | unresolvedComplexType (owner property complexType : String)
  /-- A function import gives back entities that are in no entity set. -/
  | unresolvedEntitySet (function entityType : String)
  | unsupportedParameterType (function parameter type : String)
deriving DecidableEq, Repr

namespace ModelError

def message : ModelError → String
  | complexTypeCycle cycle => "complex types contain themselves: " ++ " -> ".intercalate cycle
  | unresolvedReturnType function returnType =>
    s!"function import '{function}' returns '{returnType}', which is neither an entity type nor " ++
      "a complex type"
  | unresolvedEntityType entitySet entityType =>
    s!"entity set '{entitySet}' refers to unknown entity type '{entityType}'"
  | unresolvedComplexType owner property complexType =>
    s!"property '{property}' of '{owner}' refers to unknown complex type '{complexType}'"
  | unresolvedEntitySet function entityType =>
    s!"function import '{function}' returns entities of '{entityType}', but no entity set holds " ++
      "them"
  | unsupportedParameterType function parameter type =>
    s!"parameter '{parameter}' of function import '{function}' has type '{type}', but only " ++
      "single primitive values can be passed"

def code : ModelError → String
  | complexTypeCycle .. => "vdmgen::model::complex_type_cycle"
  | unresolvedReturnType .. => "vdmgen::model::unresolved_return_type"
  | unresolvedEntityType .. => "vdmgen::model::unresolved_entity_type"
  | unresolvedComplexType .. => "vdmgen::model::unresolved_complex_type"
  | unresolvedEntitySet .. => "vdmgen::model::unresolved_entity_set"
  | unsupportedParameterType .. => "vdmgen::model::unsupported_parameter_type"

def help? : ModelError → Option String
  | complexTypeCycle .. =>
    some "a complex type cannot contain a property of its own type at any depth"
  | unresolvedEntitySet .. =>
    some ("add an entity set for the entity type or set the EntitySet attribute of the function " ++
      "import")
  | unsupportedParameterType .. =>
    some ("function import parameters are sent as URL query options, which carry only primitive " ++
      "EDM values")
  | unresolvedReturnType .. | unresolvedEntityType .. | unresolvedComplexType .. => none

end ModelError

/-- Why the making of a model ends without one. -/
inductive BuildError where
  | model (error : ModelError)
  | name (error : NameError)
  | typeReference (error : TypeReferenceError)
  | edmType (error : UnknownEdmType)
deriving DecidableEq, Repr

namespace BuildError

def message : BuildError → String
  | model error => error.message
  | name error => error.message
  | typeReference error => error.message
  | edmType error => error.message

def help? : BuildError → Option String
  | model error => error.help?
  | name error => some error.help
  | typeReference _ => none
  | edmType _ => some UnknownEdmType.help

end BuildError

end ODataClient
