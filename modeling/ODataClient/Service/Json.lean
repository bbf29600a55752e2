import ODataClient.Json.Basic
import ODataClient.Service.Basic

/-!
# Service models as JSON

The JSON value of a service model. Values that are absent are left out.
-/

namespace ODataClient.Service

/-- A member that is left out when its value is absent. -/
def optionalMember (name : String) (value : Option String) : List (String × Json) :=
  match value with
  | some text => [(name, .text text)]
  | none => []

def Property.toJson (property : Property) : Json :=
  .object <| [
    ("originalName", .text property.originalName),
    ("instancePropertyName", .text property.instanceName),
    ("staticPropertyName", .text property.staticName),
    ("propertyNameAsParam", .text property.parameterName),
    ("edmType", .text property.edmType),
    ("jsType", .text property.targetType),
    ("fieldType", .text property.fieldType),
    ("nullable", .bool property.nullable),
    ("isComplex", .bool property.isComplex),
    ("isKey", .bool property.isKey),
    ("description", .text property.description)]
    ++ optionalMember "maxLength" property.maxLength
    ++ optionalMember "precision" property.precision
    ++ optionalMember "scale" property.scale

def Cardinality.word : Cardinality → String
  | one => "one"
  | many => "many"

def NavigationProperty.toJson (property : NavigationProperty) : Json :=
  .object [
    ("originalName", .text property.originalName),
    ("instancePropertyName", .text property.instanceName),
    ("staticPropertyName", .text property.staticName),
    ("propertyNameAsParam", .text property.parameterName),
    ("multiplicity", .text property.cardinality.word),
    ("toEntityClassName", .text property.targetClass),
    ("toEntitySetName", .text property.targetSet)]

def Entity.toJson (entity : Entity) : Json :=
  .object [
    ("entitySetName", .text entity.entitySetName),
    ("entityTypeName", .text entity.entityTypeName),
    ("className", .text entity.className),
    ("description", .text entity.description),
    ("properties", .array (entity.properties.map Property.toJson)),
    ("keys", .array (entity.keys.map Property.toJson)),
    ("navigationProperties", .array (entity.navigation.map NavigationProperty.toJson))]

def ComplexType.toJson (type : ComplexType) : Json :=
  .object [
    ("originalName", .text type.originalName),
    ("qualifiedName", .text type.qualifiedName),
    ("typeName", .text type.typeName),
    ("factoryName", .text type.factoryName),
    ("fieldType", .text type.fieldType),
    ("description", .text type.description),
    ("properties", .array (type.properties.map Property.toJson))]

def Parameter.toJson (parameter : Parameter) : Json :=
  .object [
    ("originalName", .text parameter.originalName),
    ("parameterName", .text parameter.parameterName),
    ("edmType", .text parameter.edmType),
    ("jsType", .text parameter.targetType),
    ("nullable", .bool parameter.nullable),
    ("description", .text parameter.description)]

def Result.toJson : Result → Json
  | primitive edmType targetType builderFunction isMulti =>
    .object [
      ("category", .text "EDM_TYPE"),
      ("edmType", .text edmType),
      ("jsType", .text targetType),
      ("builderFunction", .text builderFunction),
      ("isMulti", .bool isMulti)]
  | entity className isMulti =>
    .object [
      ("category", .text "ENTITY"),
      ("entityClassName", .text className),
      ("isMulti", .bool isMulti)]
  | complex typeName factoryName builderFunction isMulti =>
    .object [
      ("category", .text "COMPLEX_TYPE"),
      ("typeName", .text typeName),
      ("factoryName", .text factoryName),
      ("builderFunction", .text builderFunction),
      ("isMulti", .bool isMulti)]
  | void => .object [("category", .text "VOID")]

def FunctionImport.toJson (function : FunctionImport) : Json :=
  .object [
    ("originalName", .text function.originalName),
    ("functionName", .text function.functionName),
    ("parametersTypeName", .text function.parametersTypeName),
    ("httpMethod", .text function.httpMethod),
    ("description", .text function.description),
    ("parameters", .array (function.parameters.map Parameter.toJson)),
    ("returnType", function.result.toJson)]

def toJson (service : Service) : Json :=
  .object <| [
    ("namespace", .text service.ns),
    ("originalFileName", .text service.fileName),
    ("directoryName", .text service.directoryName),
    ("npmPackageName", .text service.npmPackageName),
    ("servicePath", .text service.servicePath),
    ("className", .text service.className),
    ("speakingModuleName", .text service.moduleName)]
    ++ optionalMember "documentationUrl" service.documentationUrl
    ++ [
      ("entities", .array (service.entities.map Entity.toJson)),
      ("complexTypes", .array (service.complexTypes.map ComplexType.toJson)),
      ("functionImports", .array (service.functionImports.map FunctionImport.toJson))]

end ODataClient.Service
