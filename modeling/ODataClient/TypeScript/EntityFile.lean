import ODataClient.TypeScript.Member
import ODataClient.TypeScript.SourceFile

/-!
# Files of entities

The file of an entity has its class, the interface of its members, and a namespace with a
description of each member for queries.
-/

namespace ODataClient.TypeScript

open Code (Imports)
open Service (Entity Property NavigationProperty)

/-- The class whose instances make the requests for an entity. -/
def requestBuilderClass (entity : Entity) : String := entity.className ++ "RequestBuilder"

/-- The interface of the members of an entity class. -/
def interfaceOf (className : String) : String := className ++ "Type"

/-- The class that describes a navigation property. -/
def linkType (navigation : NavigationProperty) : String :=
  match navigation.cardinality with
  | .many => "Link"
  | .one => "OneToOneLink"

namespace EntityFile

variable (service : Service) (entity : Entity)

/-- Asks for what the members of a property are declared with. -/
def importProperty (imports : Imports) (property : Property) : Imports :=
  if property.isComplex then importComplexType imports property
  else (importValueType imports property.targetType).value coreModule property.fieldType

/-- Asks for what the members of a navigation property are declared with. A class does not import
itself. -/
def importNavigation (imports : Imports) (navigation : NavigationProperty) : Imports :=
  let linked := imports.value coreModule (linkType navigation)
  let target := navigation.targetClass
  if target = entity.className then linked
  else
    (linked.value (siblingModule target) target).type (siblingModule target) (interfaceOf target)

def imports : Imports :=
  let requestBuilder := requestBuilderClass entity
  let own := (Imports.none.values coreModule
    ["AllFields", "CustomField", "Entity", "EntityBuilderType", "Selectable"]).value
      (siblingModule requestBuilder) requestBuilder
  entity.navigation.foldl (importNavigation entity)
    (entity.properties.foldl importProperty own)

/-- The fields that tell what the class stands for. -/
def technicalFields : List Field :=
  let technical (name value doc : String) : Field :=
    { name, value := some (stringLiteral value), doc := some doc, isStatic := true }
  let className := entity.className
  [technical "_entityName" entity.entitySetName s!"Technical entity name for {className}.",
    technical "_serviceName" service.fileName s!"Technical service name for {className}.",
    technical "_defaultServicePath" service.servicePath
      "Default url path for the according service."]

def propertyField (property : Property) : Field where
  name := property.instanceName
  type := some property.targetType
  isNullable := some property.nullable
  doc := some (propertyDoc property)

def navigationField (navigation : NavigationProperty) : Field :=
  let target := navigation.targetClass
  let (type, kind, isNullable) := match navigation.cardinality with
    | .many => (target ++ "[]", "One-to-many", false)
    | .one => (target, "One-to-one", true)
  { name := navigation.instanceName
    type := some type
    isNullable := some isNullable
    doc := some s!"{kind} navigation property to the [[{target}]] entity." }

def methods : List Method :=
  let className := entity.className
  let requestBuilder := requestBuilderClass entity
  let keys := keyObject entity.keys fun key => "this." ++ key.instanceName
  [{ name := "getKeys"
     doc := some "Key properties of this entity, by their names on the wire."
     result := some (dictionaryType "key" "any")
     body := Text.lines s!"return {keys};" },
   { name := "builder"
     isStatic := true
     doc := some (s!"Returns an entity builder to construct instances of `{className}`.\n" ++
       s!"@returns A builder that constructs instances of entity type `{className}`.")
     result := some s!"EntityBuilderType<{className}, {interfaceOf className}>"
     body := Text.lines s!"return Entity.entityBuilder({className});" },
   { name := "requestBuilder"
     isStatic := true
     doc := some ("Returns a request builder to construct requests for operations on the " ++
       s!"`{className}` entity type.")
     result := some requestBuilder
     body := Text.lines s!"return new {requestBuilder}();" },
   { name := "customField"
     isStatic := true
     doc := some ("Returns a selectable object that allows the selection of custom field in a " ++
       s!"get request for the entity `{className}`.\n" ++
       "@param fieldName Name of the custom field to select")
     parameters := [{ name := "fieldName", type := "string" }]
     result := some s!"CustomField<{className}>"
     body := Text.lines s!"return Entity.customFieldSelector(fieldName, {className});" }]

def classDeclaration : Class :=
  let title := s!"This class represents the entity \"{entity.entitySetName}\" of service " ++
    s!"\"{service.fileName}\"."
  let fields := technicalFields service entity ++ entity.properties.map propertyField ++
    entity.navigation.map navigationField
  { name := entity.className
    doc := some (if entity.description = "" then title else title ++ "\n" ++ entity.description)
    base := some "Entity"
    interfaces := [interfaceOf entity.className]
    members := fields.map .field ++ (methods entity).map .method }

/-- The field of a navigation property in the interface. -/
def navigationInterfaceField (navigation : NavigationProperty) : InterfaceField :=
  let target := interfaceOf navigation.targetClass
  match navigation.cardinality with
  | .many => { name := navigation.instanceName, type := target ++ "[]" }
  | .one => { name := navigation.instanceName, type := target, isOptional := true }

/-- The interface of the members. -/
def interfaceDeclaration : Interface where
  name := interfaceOf entity.className
  fields :=
    (entity.properties.map fun property =>
      { name := property.instanceName
        type := property.targetType
        isOptional := property.nullable }) ++ entity.navigation.map navigationInterfaceField

/-- How a member can be referred to in queries. -/
def memberDoc (name member : String) : String :=
  s!"Static representation of the [[{name}]] {member} for query construction.\n" ++
    "Use to reference this property in query operations such as 'select' in the fluent request API."

/-- The type of the description of a property. -/
def propertyDescriptorType (property : Property) : String :=
  s!"{property.fieldType}<{entity.className}>"

/-- The type of the description of a navigation property. -/
def linkDescriptorType (navigation : NavigationProperty) : String :=
  s!"{linkType navigation}<{entity.className}, {navigation.targetClass}>"

/-- The constant that describes a property. -/
def propertyDescriptor (property : Property) : Except UnknownEdmType Constant := do
  let arguments := stringLiteral property.originalName ++ ", " ++ entity.className
  let value ←
    if property.isComplex then pure s!"new {property.fieldType}({arguments})"
    else do
      let type ← EdmType.ofName property.edmType
      pure s!"new {property.fieldType}({arguments}, '{type.name}')"
  return {
    name := property.staticName
    value
    type := some (propertyDescriptorType entity property)
    doc := some (memberDoc property.instanceName "property") }

/-- The constant that describes a navigation property. -/
def linkDescriptor (navigation : NavigationProperty) : Constant :=
  let name := stringLiteral navigation.originalName
  { name := navigation.staticName
    value :=
      s!"new {linkType navigation}({name}, {entity.className}, {navigation.targetClass})"
    type := some (linkDescriptorType entity navigation)
    doc := some (memberDoc navigation.instanceName "navigation property") }

/-- The constants that list members of the class. -/
def memberLists : List Constant :=
  let className := entity.className
  let selectable := s!"Selectable<{className}>"
  let descriptorTypes := entity.properties.map (propertyDescriptorType entity) ++
    entity.navigation.map (linkDescriptorType entity)
  let fieldType := if descriptorTypes.isEmpty then selectable else unionType descriptorTypes
  let staticNames := entity.properties.map (·.staticName) ++ entity.navigation.map (·.staticName)
  let static (name : String) : String := className ++ "." ++ name
  let keyNames := entity.keys.map fun key => static key.staticName
  let keyMap := dictionaryType "keys" selectable
  [{ name := "_allFields"
     value := listLiteral (staticNames.map static)
     type := some s!"Array<{fieldType}>"
     doc := some s!"All fields of the {className} entity." },
   { name := "ALL_FIELDS"
     value := s!"new AllFields('*', {className})"
     type := some s!"AllFields<{className}>"
     doc := some "All fields selector." },
   { name := "_keyFields"
     value := "[" ++ ", ".intercalate keyNames ++ "]"
     type := some s!"Array<{selectable}>"
     doc := some s!"All key fields of the {className} entity." },
   { name := "_keys"
     value := s!"{className}._keyFields.reduce((acc: {keyMap}, field: {selectable}) => \x7b\n" ++
       "  acc[field._fieldName] = field;\n  return acc;\n\x7d, \x7b\x7d)"
     type := some keyMap
     doc := some ("Mapping of all key field names to the respective static field property " ++
       s!"{className}.") }]

def namespaceBody : Except UnknownEdmType (List Statement) := do
  let properties ← entity.properties.mapM (propertyDescriptor entity)
  let constants := properties ++ entity.navigation.map (linkDescriptor entity) ++ memberLists entity
  return constants.map .constantDeclaration

end EntityFile

def entityFile (service : Service) (entity : Entity) : Except UnknownEdmType SourceFile := do
  let body ← EntityFile.namespaceBody entity
  return {
    imports := EntityFile.imports entity
    body := [
      .classDeclaration (EntityFile.classDeclaration service entity),
      .interfaceDeclaration (EntityFile.interfaceDeclaration entity),
      .namespaceDeclaration entity.className none body] }

end ODataClient.TypeScript
