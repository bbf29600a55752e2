import ODataClient.TypeScript.Member
import ODataClient.TypeScript.SourceFile

/-!
# Files of complex types

The file of a complex type has the interface of its values, the class that describes fields of the
type, and a function that makes values from their wire form.
-/

namespace ODataClient.TypeScript

open Code (Imports)
open Service (ComplexType Property)

namespace ComplexTypeFile

variable (type : ComplexType)

/-- Asks for what the members of a property are declared with. -/
def importProperty (imports : Imports) (property : Property) : Imports :=
  if property.isComplex then importComplexType imports property
  else
    (importValueType imports property.targetType).values coreModule
      ["edmToTs", complexPropertyFieldType property.fieldType]

def imports : Imports :=
  type.properties.foldl importProperty
    (Imports.none.values coreModule
      ["ComplexTypeField", "Entity", "FieldType", "createComplexType"])

/-- The interface of the values. -/
def interfaceDeclaration : Interface where
  name := type.typeName
  doc := some (if type.description = "" then type.typeName else type.description)
  fields := type.properties.map fun property =>
    { name := property.instanceName
      type := property.targetType
      doc := some (propertyDoc property)
      isOptional := property.nullable }

/-- The field that describes a property. -/
def descriptor (property : Property) : Except UnknownEdmType Field := do
  let name := stringLiteral property.originalName
  let (field, value) ←
    if property.isComplex then
      pure (property.fieldType, s!"new {property.fieldType}({name}, this)")
    else do
      let edmType ← EdmType.ofName property.edmType
      let field := complexPropertyFieldType property.fieldType
      pure (field, s!"new {field}({name}, this, '{edmType.name}')")
  return {
    name := property.instanceName
    type := some s!"{field}<EntityT>"
    value := some value
    doc := some (s!"Representation of the [[{type.typeName}.{property.instanceName}]] property " ++
      "for query construction.\nUse to reference this property in query operations such as " ++
      "'filter' in the fluent request API.") }

/-- The class that describes fields of the type. -/
def fieldClass : Except UnknownEdmType Class := do
  let fields ← type.properties.mapM (descriptor type)
  return {
    name := type.fieldType
    doc := some (s!"{type.fieldType}\n" ++
      "@typeparam EntityT - Type of the entity the complex type field belongs to.")
    typeParameters := some "EntityT extends Entity"
    base := some "ComplexTypeField<EntityT>"
    members := fields.map .field }

/-- The entry that says how a property is made from its wire form. -/
def buildEntry (property : Property) : Except UnknownEdmType String := do
  let name := property.instanceName
  let conversion ←
    if property.isComplex then pure s!"{property.targetType}.build({name})"
    else (EdmType.ofName property.edmType).map fun edmType => fromWire edmType name
  return s!"{property.originalName}: ({name}: {property.targetType}) => " ++
    s!"(\x7b {name}: {conversion} \x7d)"

/-- The function that makes values from their wire form. -/
def buildFunction : Except UnknownEdmType Function := do
  let entries ← type.properties.mapM buildEntry
  let nested := (type.properties.filter (·.isComplex)).map (·.targetType)
  let wireType := dictionaryType "keys" (unionType ("FieldType" :: nested))
  return {
    name := "build"
    doc := some s!"Builds a `{type.typeName}` from its JSON representation."
    parameters := [{ name := "json", type := wireType }]
    result := some type.typeName
    body := Text.lines s!"return createComplexType(json, {objectLiteral entries});" }

end ComplexTypeFile

def complexTypeFile (type : ComplexType) : Except UnknownEdmType SourceFile := do
  let fieldClass ← ComplexTypeFile.fieldClass type
  let buildFunction ← ComplexTypeFile.buildFunction type
  return {
    imports := ComplexTypeFile.imports type
    body := [
      .interfaceDeclaration (ComplexTypeFile.interfaceDeclaration type),
      .classDeclaration fieldClass,
      .namespaceDeclaration type.typeName none [.functionDeclaration buildFunction]] }

end ODataClient.TypeScript
