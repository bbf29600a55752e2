import ODataClient.Model.Build
import ODataClient.Model.ComplexGraph
import ODataClient.Service.Basic

/-!
# Building service models

Names are requested in a fixed order, so that the same metadata always lead to the same names: the
directory, the functions, the classes of entity sets, the complex types with their factories, and
then the members of complex types, entities and functions.
-/

namespace ODataClient

namespace Model

open Service (Property NavigationProperty Entity ComplexType Parameter FunctionImport)

structure ComplexNames where
  typeName : String
  factoryName : String
  /-- The class that describes a field of the type. -/
  fieldType : String
deriving DecidableEq, Repr

variable (language : TargetLanguage) (input : ModelInput)

/-- Names the classes of the entity sets, each of which must be of a declared type. -/
def entityClasses : Build (List (Schema.EntitySet × Schema.EntityType × String)) :=
  let sets := input.schema.entitySets
  sets.mapM fun set => do
    match input.schema.findEntityType? set.type with
    | none => Build.fail (.unresolvedEntityType set.name set.type)
    | some type =>
      let className ← Build.name (.entityClass set.name (sets.map (·.name)))
      return (set, type, className)

/-- Names the complex types, kept under their qualified names. -/
def complexNames : Build (Dictionary ComplexNames) := do
  let entries ← input.schema.complexTypes.mapM fun type => do
    let typeName ← Build.name (.complexType type.qualifiedName type.name)
    let factoryName ← Build.name (.factory type.qualifiedName typeName)
    return (type.qualifiedName,
      ({ typeName, factoryName, fieldType := language.complexFieldType typeName } : ComplexNames))
  return Dictionary.ofEntries entries

variable (complex : Dictionary ComplexNames)

/-- How a property is typed. -/
structure PropertyType where
  edmType : String
  targetType : String
  fieldType : String
  isComplex : Bool
deriving DecidableEq, Repr

/-- How a property of the type `owner` is typed. A collection is typed as its elements are. -/
def propertyType (owner : String) (property : Schema.Property) : Build PropertyType := do
  match (← Build.typeReference property.type).element with
  | .primitive name =>
    let mapping ← Build.primitive language name
    return {
      edmType := name
      targetType := mapping.targetType
      fieldType := mapping.fieldType
      isComplex := false }
  | .declared ns name =>
    let qualifiedName := ns ++ "." ++ name
    match complex.get? qualifiedName with
    | none => Build.fail (.unresolvedComplexType owner property.name qualifiedName)
    | some names =>
      return {
        edmType := qualifiedName
        targetType := names.typeName
        fieldType := names.fieldType
        isComplex := true }

/-- Makes a property of the class `owner` from one of the type `ns.type`. A key is never null. -/
def property (owner ns type : String) (isKey : Bool) (source : Schema.Property) :
    Build Property := do
  let typing ← propertyType language complex type source
  let names ← Build.memberNames owner source.name
  return {
    originalName := source.name
    instanceName := names.instanceName
    staticName := names.staticName
    parameterName := names.parameterName
    edmType := typing.edmType
    targetType := typing.targetType
    fieldType := typing.fieldType
    nullable := !isKey && source.nullable.getD true
    isComplex := typing.isComplex
    isKey
    description := input.describeProperty ns type source
    maxLength := source.maxLength
    precision := source.precision
    scale := source.scale }

def complexType (type : Schema.ComplexType) : Build ComplexType := do
  match complex.get? type.qualifiedName with
  | none => Build.fail (.unresolvedComplexType type.name "" type.qualifiedName)
  | some names =>
    let properties ← type.properties.mapM
      (property language input complex names.typeName type.ns type.name false)
    return {
      originalName := type.name
      qualifiedName := type.qualifiedName
      typeName := names.typeName
      factoryName := names.factoryName
      fieldType := names.fieldType
      description := input.describeType type.ns type.name none
      properties }

/-- The end of the association that a navigation property leads to. -/
def navigationEnd? (navigation : Schema.NavigationProperty) : Option Schema.AssociationEnd :=
  (input.schema.findAssociation? navigation.relationship).bind (·.findEnd? navigation.toRole)

/-- Leaves a navigation property out, for the reason given. -/
def dropNavigation (location reason : String) : Build (Option NavigationProperty) := do
  let message := s!"dropping navigation property '{location}': {reason}"
  Build.report ((Diagnostic.warning "build" message).locatedAt location)
  return none

/-- Makes a navigation property of the class `owner`. One that leads to no entity set is left
out. -/
def navigationProperty (owner type : String) (navigation : Schema.NavigationProperty) :
    Build (Option NavigationProperty) := do
  let drop := dropNavigation (type ++ "." ++ navigation.name)
  match navigationEnd? input navigation with
  | none => drop s!"role '{navigation.toRole}' of '{navigation.relationship}' is not declared"
  | some target =>
    match (input.schema.entitySetsOf target.type).head? with
    | none => drop s!"target entity type '{target.type}' has no entity set"
    | some set =>
      match ← Build.classOf? set with
      | none => drop s!"entity set '{set.name}' has no class"
      | some targetClass =>
        let names ← Build.memberNames owner navigation.name
        return some {
          originalName := navigation.name
          instanceName := names.instanceName
          staticName := names.staticName
          parameterName := names.parameterName
          cardinality := if target.multiplicity.isMany then .many else .one
          targetClass
          targetSet := set.name }

/-- Makes the entity of an entity set. The class keeps the name `ALL_FIELDS` for itself. -/
def entity (set : Schema.EntitySet) (type : Schema.EntityType) (className : String) :
    Build Entity := do
  Build.reserve { space := .staticMembers, owner := className } "ALL_FIELDS"
  let properties ← type.properties.mapM fun source =>
    property language input complex className type.ns type.name (type.isKey source.name) source
  let navigation ← type.navigation.mapM (navigationProperty input className type.name)
  return {
    entitySetName := set.name
    entityTypeName := type.name
    className
    description := input.describeType type.ns type.name (type.label.or set.label)
    properties
    keys := properties.filter (·.isKey)
    navigation := navigation.filterMap id }

/-- Makes a parameter of a function import, which must be a single primitive value. -/
def parameter (function : Schema.FunctionImport) (functionName : String)
    (source : Schema.Parameter) : Build Parameter := do
  match ← Build.typeReference source.type with
  | .single (.primitive name) =>
    let mapping ← Build.primitive language name
    let parameterName ← Build.name (.member .parameter functionName source.name)
    return {
      originalName := source.name
      parameterName
      edmType := name
      targetType := mapping.targetType
      nullable := source.nullable.getD false
      description := source.label.getD "" }
  | _ => Build.fail (.unsupportedParameterType function.name source.name source.type)

/-- The entity set that returned entities of a type belong to: the one that the function import
names if it holds that type, or else the first that does. -/
def resultSet? (function : Schema.FunctionImport) (type : String) : Option Schema.EntitySet :=
  ((function.entitySet.bind input.schema.findEntitySet?).filter (·.type = type)).or
    (input.schema.entitySetsOf type).head?

/-- What a function import gives back. -/
def result (function : Schema.FunctionImport) : Build Service.Result := do
  match function.returnType with
  | none => return .void
  | some text =>
    let reference ← Build.typeReference text
    let isMulti := reference.isCollection
    match reference.element with
    | .primitive name =>
      let mapping ← Build.primitive language name
      return .primitive name mapping.targetType mapping.builderFunction isMulti
    | .declared ns name =>
      let qualifiedName := ns ++ "." ++ name
      match complex.get? qualifiedName with
      | some names =>
        return .complex names.typeName names.factoryName
          (language.complexBuilderFunction names.typeName) isMulti
      | none =>
        if (input.schema.findEntityType? qualifiedName).isNone then
          Build.fail (.unresolvedReturnType function.name text)
        else
          let className ← match resultSet? input function qualifiedName with
            | some set => Build.classOf? set
            | none => pure none
          match className with
          | some className => return .entity className isMulti
          | none => Build.fail (.unresolvedEntitySet function.name qualifiedName)

def functionImport (function : Schema.FunctionImport) (functionName : String) :
    Build FunctionImport := do
  let parametersTypeName ← Build.name (.parametersType function.name functionName)
  let parameters ← function.parameters.mapM (parameter language function functionName)
  let result ← result language input complex function
  return {
    originalName := function.name
    functionName
    parametersTypeName
    httpMethod := function.httpMethod
    description := function.label.getD ""
    parameters
    result }

/-- The complex types of a schema, each behind those that its properties are of. -/
def orderedComplexTypes (schema : Schema) : Except ModelError (List Schema.ComplexType) :=
  let graph := ComplexGraph.ofSchema schema
  match graph.postOrder with
  | .ok names => .ok (names.filterMap graph.find?)
  | .error cycle => .error (.complexTypeCycle cycle)

/-- The class of a service, which always ends in `Service`. -/
def serviceClass (typeName : String) : String :=
  if (Name.beforeEnd? "Service" typeName).isSome then typeName else typeName ++ "Service"

def service : Build Service := do
  let schema := input.schema
  let orderedTypes ← Build.lift .model (orderedComplexTypes schema)
  let readable := Name.readable input.fileName
  let directoryName ← Build.name (.directory readable (input.mapping.map (·.directoryName)))
  let functionNames ← schema.functionImports.mapM fun function =>
    Build.name (.function function.name)
  let classes ← entityClasses input
  let complex ← complexNames language input
  let complexTypes ← orderedTypes.mapM (complexType language input complex)
  let entities ← classes.mapM fun (set, type, className) =>
    entity language input complex set type className
  let functionImports ← (schema.functionImports.zip functionNames).mapM fun (function, name) =>
    functionImport language input complex function name
  return {
    ns := schema.ns
    fileName := input.fileName
    directoryName
    npmPackageName := (input.mapping.map (·.npmPackageName)).getD directoryName
    servicePath := input.servicePath
    className := serviceClass (language.naming.recase readable .type)
    moduleName := language.naming.recase readable .directory
    documentationUrl := input.swagger.bind (·.documentationUrl?)
    entities
    complexTypes
    functionImports }

/-- The model of a service and the findings made on the way, with names from the given
registry. -/
def buildFrom (registry : Name.Registry) : Except BuildError (Service × List Diagnostic) :=
  ((service language input).run { registry, findings := [] }).map fun (service, state) =>
    (service, state.findings)

/-- The model of a service and the findings made on the way. -/
def build : Except BuildError (Service × List Diagnostic) :=
  buildFrom language input (Name.Registry.empty input.schema.ns language.naming)

end Model

end ODataClient
