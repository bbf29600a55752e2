/-!
# Service models

Everything that the client of a service is generated from: names are chosen, types are those of the
target language, and references lead to the classes they mean.
-/

namespace ODataClient

namespace Service

/-- A property of an entity or complex type. -/
structure Property where
  /-- The name in the metadata and on the wire. -/
  originalName : String
  instanceName : String
  staticName : String
  /-- The name of the property where it is passed as a parameter. -/
  parameterName : String
  /-- The name of a primitive, or the qualified name of a complex type. -/
  edmType : String
  /-- The type of the values in the target language. -/
  targetType : String
  /-- The class that describes the field. -/
  fieldType : String
  nullable : Bool
  isComplex : Bool
  isKey : Bool
  description : String
  maxLength : Option String
  precision : Option String
  scale : Option String
deriving DecidableEq, Repr

/-- How many entities a navigation property leads to. -/
inductive Cardinality where
  | one
  | many
deriving DecidableEq, Repr

/-- A property that leads to other entities. -/
structure NavigationProperty where
  originalName : String
  instanceName : String
  staticName : String
  parameterName : String
  cardinality : Cardinality
  /-- The class of the entities led to. -/
  targetClass : String
  /-- The entity set that the entities led to are in. -/
  targetSet : String
deriving DecidableEq, Repr

/-- The entities of one set. -/
structure Entity where
  entitySetName : String
  /-- The name of the entity type in the metadata. -/
  entityTypeName : String
  className : String
  description : String
  properties : List Property
  /-- The properties that make up the key. -/
  keys : List Property
  navigation : List NavigationProperty
deriving DecidableEq, Repr

structure ComplexType where
  originalName : String
  qualifiedName : String
  typeName : String
  factoryName : String
  /-- The class that describes a field of the type. -/
  fieldType : String
  description : String
  properties : List Property
deriving DecidableEq, Repr

structure Parameter where
  originalName : String
  parameterName : String
  edmType : String
  targetType : String
  nullable : Bool
  description : String
deriving DecidableEq, Repr

/-- What a function import gives back. -/
inductive Result where
  | primitive (edmType targetType builderFunction : String) (isMulti : Bool)
  | entity (className : String) (isMulti : Bool)
  | complex (typeName factoryName builderFunction : String) (isMulti : Bool)
  | void
deriving DecidableEq, Repr

/-- An operation of the service. -/
structure FunctionImport where
  originalName : String
  functionName : String
  parametersTypeName : String
  httpMethod : String
  description : String
  parameters : List Parameter
  result : Result
deriving DecidableEq, Repr

end Service

/-- Everything that the client of a service is generated from. -/
structure Service where
  /-- The namespace of the metadata. -/
  ns : String
  /-- The name of the metadata file without its ending. -/
  fileName : String
  directoryName : String
  npmPackageName : String
  servicePath : String
  className : String
  moduleName : String
  documentationUrl : Option String
  entities : List Service.Entity
  /-- The complex types, each behind those that its properties are of. -/
  complexTypes : List Service.ComplexType
  functionImports : List Service.FunctionImport
deriving DecidableEq, Repr

namespace Service

def Entity.findProperty? (entity : Entity) (originalName : String) : Option Property :=
  entity.properties.find? (·.originalName = originalName)

def Entity.hasComplexProperties (entity : Entity) : Bool :=
  entity.properties.any (·.isComplex)

/-- Whether the operation is called by an HTTP GET. -/
def FunctionImport.isGet (function : FunctionImport) : Bool :=
  function.httpMethod = "GET"

namespace Result

/-- Whether any number of values is given back. -/
def isMulti : Result → Bool
  | primitive _ _ _ isMulti | entity _ isMulti | complex _ _ _ isMulti => isMulti
  | void => false

/-- The type of one value that is given back. -/
def typeName : Result → String
  | primitive _ targetType _ _ => targetType
  | entity className _ => className
  | complex typeName _ _ _ => typeName
  | void => "undefined"

end Result

variable (service : Service)

def findEntity? (className : String) : Option Entity :=
  service.entities.find? (·.className = className)

def findEntityOfSet? (entitySetName : String) : Option Entity :=
  service.entities.find? (·.entitySetName = entitySetName)

/-- The complex type with a qualified name or a name in the metadata. -/
def findComplexType? (name : String) : Option ComplexType :=
  service.complexTypes.find? fun type => type.qualifiedName = name ∨ type.originalName = name

def findFunctionImport? (originalName : String) : Option FunctionImport :=
  service.functionImports.find? (·.originalName = originalName)

end Service

end ODataClient
