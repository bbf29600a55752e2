import ODataClient.Schema.Basic
import ODataClient.Schema.Document
import ODataClient.Schema.Error

/-!
# Merging documents into a schema

The parts of all documents of a service are taken in order and put together into one schema. Every
construct must be complete and its name new among those of its kind. Alternative names of namespaces
are replaced in type references. When all is put together, every reference must lead to a construct
of the schema.
-/

namespace ODataClient.Schema

/-- What is known while constructs are put together: the documents, and the namespaces that
alternative names stand for, the latest first. -/
structure MergeContext where
  sources : List Source
  alternatives : List (String × String)

namespace MergeContext

variable (context : MergeContext)

/-- The namespace that a name stands for. -/
def resolveNamespace (ns : String) : String :=
  (context.alternatives.lookup ns).getD ns

/-- The value of an attribute that must be there. A missing one is searched for at `owner`. -/
def require (element required : String) (owner : String) (place : Construct) :
    Option String → Except SchemaError String
  | some value => .ok value
  | none => .error (.missingAttribute (Source.locate context.sources owner) element required place)

/-- Reads a type reference and replaces an alternative name of its namespace. -/
def typeReference (reference : String) (place : Construct) : Except SchemaError TypeReference :=
  match TypeReference.parse reference with
  | .ok parsed => .ok (parsed.mapNamespace context.resolveNamespace)
  | .error reason =>
    let site := Source.locate context.sources (Source.quoting reference)
    .error (.invalidTypeReference site reference place reason)

/-- The text of a type reference once alternative names are replaced. -/
def typeText (reference : String) (place : Construct) : Except SchemaError String :=
  (context.typeReference reference place).map TypeReference.text

/-- The error for a reference to a type that is not declared. -/
def unresolved (reference : String) (place : Construct) : SchemaError :=
  .unresolvedType (Source.locate context.sources (Source.quoting reference)) reference place

end MergeContext

/-- Reads a truth value, in any case and with blanks around it. -/
def parseBool? (text : String) : Option Bool :=
  let word := (Unicode.trim text.toList).map Char.toLower
  if word = "true".toList then some true
  else if word = "false".toList then some false
  else none

section Constructs

variable (context : MergeContext)

def Property.ofDocument (type : String) (property : Document.Property) :
    Except SchemaError Property := do
  let name ← context.require "Property" "Name" type (.typeNamed type) property.name
  let place := Construct.property name type
  let reference ← context.require "Property" "Type" name place property.type
  let reference ← context.typeText reference place
  return {
    name
    type := reference
    nullable := property.nullable.bind parseBool?
    maxLength := property.maxLength
    precision := property.precision
    scale := property.scale
    label := property.label
    quickinfo := property.quickinfo }

def NavigationProperty.ofDocument (type : String) (property : Document.NavigationProperty) :
    Except SchemaError NavigationProperty := do
  let element := "NavigationProperty"
  let name ← context.require element "Name" type (.typeNamed type) property.name
  let place := Construct.navigationProperty name type
  let relationship ← context.require element "Relationship" name place property.relationship
  let fromRole ← context.require element "FromRole" name place property.fromRole
  let toRole ← context.require element "ToRole" name place property.toRole
  let relationship ← context.typeText relationship place
  return { name, relationship, fromRole, toRole }

/-- Completes a reference of a key, which must be to one of the properties. -/
def keyOfDocument (type : String) (properties : List Property) (key : Option String) :
    Except SchemaError String := do
  let key ← context.require "PropertyRef" "Name" type (.key type) key
  if properties.any (·.name = key) then return key
  else
    let site := Source.locate context.sources ("PropertyRef " ++ Source.naming key)
    throw (.unknownKeyProperty site type key)

def EntityType.ofDocument (ns name : String) (type : Document.EntityType) :
    Except SchemaError EntityType := do
  let properties ← type.properties.mapM (Property.ofDocument context name)
  let keys ← type.keys.mapM (keyOfDocument context name properties)
  let navigation ← type.navigation.mapM (NavigationProperty.ofDocument context name)
  return { ns, name, keys, properties, navigation, label := type.label }

def ComplexType.ofDocument (ns name : String) (type : Document.ComplexType) :
    Except SchemaError ComplexType := do
  let properties ← type.properties.mapM (Property.ofDocument context name)
  return { ns, name, properties }

def AssociationEnd.ofDocument (association : String) (associationEnd : Document.AssociationEnd) :
    Except SchemaError AssociationEnd := do
  let place := Construct.association association
  let type ← context.require "End" "Type" association place associationEnd.type
  let role ← context.require "End" "Role" association place associationEnd.role
  let text ← context.require "End" "Multiplicity" association place associationEnd.multiplicity
  match Multiplicity.parse? text with
  | none =>
    let site := Source.locate context.sources (Source.naming association)
    throw (.invalidMultiplicity site association text)
  | some multiplicity =>
    let type ← context.typeText type place
    return { type, multiplicity, role }

def Association.ofDocument (ns name : String) (association : Document.Association) :
    Except SchemaError Association := do
  let ends ← association.ends.mapM (AssociationEnd.ofDocument context name)
  return { ns, name, ends }

def EntitySet.ofDocument (name : String) (set : Document.EntitySet) :
    Except SchemaError EntitySet := do
  let place := Construct.entitySet name
  let type ← context.require "EntitySet" "EntityType" name place set.type
  let type ← context.typeText type place
  return { name, type, label := set.label }

def Parameter.ofDocument (function : String) (parameter : Document.Parameter) :
    Except SchemaError Parameter := do
  let owner := Construct.functionImport function
  let name ← context.require "Parameter" "Name" function owner parameter.name
  let place := Construct.parameter name function
  let type ← context.require "Parameter" "Type" name place parameter.type
  let type ← context.typeText type place
  return {
    name
    type
    nullable := parameter.nullable.bind parseBool?
    maxLength := parameter.maxLength
    mode := parameter.mode
    label := parameter.label }

/-- The HTTP method in capitals. It is `GET` where none is given. -/
def httpMethodOfDocument (method : Option String) : String :=
  let trimmed := (Unicode.trim (method.getD "").toList).map Char.toUpper
  if trimmed = [] then "GET" else String.ofList trimmed

def FunctionImport.ofDocument (name : String) (function : Document.FunctionImport) :
    Except SchemaError FunctionImport := do
  let returnType ← match function.returnType with
    | some type => (context.typeText type (.returnType name)).map some
    | none => pure none
  let parameters ← function.parameters.mapM (Parameter.ofDocument context name)
  return {
    name
    returnType
    entitySet := function.entitySet
    httpMethod := httpMethodOfDocument function.httpMethod
    label := function.label
    parameters }

end Constructs

/-- A construct as it is spelled out in a document. -/
inductive Declaration where
  | entityType (item : Document.EntityType)
  | complexType (item : Document.ComplexType)
  | association (item : Document.Association)
  /-- An entity set of a container with the given name. -/
  | entitySet (container : String) (item : Document.EntitySet)
  /-- A function import of a container with the given name. -/
  | functionImport (container : String) (item : Document.FunctionImport)

def Declaration.kind : Declaration → DeclarationKind
  | entityType _ => .entityType
  | complexType _ => .complexType
  | association _ => .association
  | entitySet .. => .entitySet
  | functionImport .. => .functionImport

/-- The name of a construct in a schema, which must be there. -/
def Declaration.name (context : MergeContext) (ns : String) :
    Declaration → Except SchemaError String
  | entityType item =>
    context.require "EntityType" "Name" "<EntityType" (.schema ns) item.name
  | complexType item =>
    context.require "ComplexType" "Name" "<ComplexType" (.schema ns) item.name
  | association item =>
    context.require "Association" "Name" "<Association" (.schema ns) item.name
  | entitySet container item =>
    context.require "EntitySet" "Name" "<EntitySet" (.entityContainer container) item.name
  | functionImport container item =>
    context.require "FunctionImport" "Name" "<FunctionImport" (.entityContainer container)
      item.name

/-- The constructs of a schema with the given namespace, in the order in which they are taken. A
container without a name goes by the namespace. -/
def declarations (ns : String) (part : Document.Part) : List Declaration :=
  part.entityTypes.map .entityType ++ part.complexTypes.map .complexType ++
    part.associations.map .association ++
    part.containers.flatMap fun container =>
      let name := container.name.getD ns
      container.entitySets.map (.entitySet name) ++
        container.functionImports.map (.functionImport name)

/-- Completes a construct and puts it behind those of its kind. -/
def add (context : MergeContext) (schema : Schema) (ns name : String) :
    Declaration → Except SchemaError Schema
  | .entityType type => do
    let type ← EntityType.ofDocument context ns name type
    return { schema with entityTypes := schema.entityTypes ++ [type] }
  | .complexType type => do
    let type ← ComplexType.ofDocument context ns name type
    return { schema with complexTypes := schema.complexTypes ++ [type] }
  | .association association => do
    let association ← Association.ofDocument context ns name association
    return { schema with associations := schema.associations ++ [association] }
  | .entitySet _ set => do
    let set ← EntitySet.ofDocument context name set
    return { schema with entitySets := schema.entitySets ++ [set] }
  | .functionImport _ function => do
    let function ← FunctionImport.ofDocument context name function
    return { schema with functionImports := schema.functionImports ++ [function] }

/-- A schema in the making: what has been put together, and the names that have been declared with
their namespaces. -/
structure Merging where
  schema : Schema
  declared : List ((DeclarationKind × String) × String)

/-- Takes one construct of a namespace. -/
def Merging.take (context : MergeContext) (merging : Merging) (item : String × Declaration) :
    Except SchemaError Merging := do
  let (ns, declaration) := item
  let name ← declaration.name context ns
  let key := (declaration.kind, name)
  match merging.declared.lookup key with
  | some first =>
    let site := Source.locateSecond context.sources name
    throw (.duplicateName site declaration.kind name first ns)
  | none =>
    let schema ← merging.schema.add context ns name declaration
    return { schema, declared := (key, ns) :: merging.declared }

section References

variable (context : MergeContext) (schema : Schema)

/-- Fails unless a type reference is to a primitive or to a type for which `isDeclared` holds. -/
def checkReference (isDeclared : String → Bool) (reference : String) (place : Construct) :
    Except SchemaError Unit := do
  let parsed ← context.typeReference reference .unnamed
  match parsed.qualifiedName? with
  | some name => if isDeclared name then return () else throw (context.unresolved reference place)
  | none => return ()

/-- Fails unless the type of a property is a primitive or a complex type. -/
def checkProperty (type : String) (property : Property) : Except SchemaError Unit :=
  checkReference context (fun name => (schema.findComplexType? name).isSome) property.type
    (.property property.name type)

/-- Fails unless a navigation property goes along an association between roles that it has. -/
def checkNavigation (type : String) (property : NavigationProperty) : Except SchemaError Unit := do
  let site := Source.locate context.sources (Source.naming property.name)
  match schema.findAssociation? property.relationship with
  | none => throw (.unresolvedAssociation site type property.name property.relationship)
  | some association =>
    [property.fromRole, property.toRole].forM fun role =>
      if (association.findEnd? role).isSome then .ok ()
      else .error (.unresolvedRole site type property.name association.name role)

/-- Fails unless the properties of an entity type lead to constructs of the schema. -/
def checkEntityType (type : EntityType) : Except SchemaError Unit := do
  type.properties.forM (checkProperty context schema type.name)
  type.navigation.forM (checkNavigation context schema type.name)

/-- Fails unless the properties of a complex type lead to constructs of the schema. -/
def checkComplexType (type : ComplexType) : Except SchemaError Unit :=
  type.properties.forM (checkProperty context schema type.name)

/-- Fails unless a text is the qualified name of an entity type. -/
def checkEntityReference (reference : String) (place : Construct) : Except SchemaError Unit :=
  if (schema.findEntityType? reference).isSome then .ok ()
  else .error (context.unresolved reference place)

/-- Fails unless the types at the ends of an association are entity types. -/
def checkAssociation (association : Association) : Except SchemaError Unit :=
  association.ends.forM fun associationEnd =>
    checkEntityReference context schema associationEnd.type (.association association.name)

/-- Fails unless the type of an entity set is an entity type. -/
def checkEntitySet (set : EntitySet) : Except SchemaError Unit :=
  checkEntityReference context schema set.type (.entitySet set.name)

/-- Fails unless the types and the entity set of a function import are declared. -/
def checkFunctionImport (function : FunctionImport) : Except SchemaError Unit := do
  let isDeclared (name : String) : Bool :=
    (schema.findEntityType? name).isSome || (schema.findComplexType? name).isSome
  function.parameters.forM fun parameter =>
    checkReference context isDeclared parameter.type (.parameter parameter.name function.name)
  match function.returnType with
  | some type => checkReference context isDeclared type (.functionImport function.name)
  | none => .ok ()
  match function.entitySet with
  | some set =>
    if (schema.findEntitySet? set).isSome then .ok ()
    else .error (context.unresolved set (.resultSet function.name))
  | none => .ok ()

/-- Fails unless all references lead to constructs of the schema. -/
def checkReferences : Except SchemaError Unit := do
  schema.entityTypes.forM (checkEntityType context schema)
  schema.complexTypes.forM (checkComplexType context schema)
  schema.associations.forM (checkAssociation context schema)
  schema.entitySets.forM (checkEntitySet context schema)
  schema.functionImports.forM (checkFunctionImport context schema)

end References

/-- The namespace of a part, which must be there. -/
def namespaceOf (sources : List Source) (part : Document.Part) : Except SchemaError String :=
  MergeContext.require { sources, alternatives := [] } "Schema" "Namespace" "Schema" .anySchema
    part.ns

/-- The namespaces that alternative names stand for, the latest first. -/
def alternativesOf (parts : List (String × Document.Part)) : List (String × String) :=
  (parts.filterMap fun (ns, part) => part.alternative.map fun name => (name, ns)).reverse

/-- The namespace of the first part with an entity container, or else of the first part. -/
def mainNamespace (parts : List (String × Document.Part)) : String :=
  match parts.find? fun (_, part) => !part.containers.isEmpty with
  | some (ns, _) => ns
  | none => (parts.head?.map Prod.fst).getD ""

/-- Puts the parts of all documents together. -/
def ofParts (sources : List Source) (parts : List Document.Part) : Except SchemaError Schema := do
  let namespaces ← parts.mapM (namespaceOf sources)
  let named := namespaces.zip parts
  let context : MergeContext := { sources, alternatives := alternativesOf named }
  let start : Schema := { ns := mainNamespace named, namespaces }
  let items := named.flatMap fun (ns, part) => (declarations ns part).map fun item => (ns, item)
  let merging ← items.foldlM (Merging.take context) { schema := start, declared := [] }
  checkReferences context merging.schema
  return merging.schema

/-- The schemas of one document. -/
def partsOf (source : Source) : Except SchemaError (List Document.Part) :=
  match Document.parse? source.text with
  | some parts => .ok parts
  | none => .error (.malformed source.name)

/-- Reads the metadata documents of a service. -/
def parse (sources : List Source) : Except SchemaError Schema := do
  let parts ← sources.mapM partsOf
  if parts.flatten.isEmpty then throw (.noSchema (sources.map Source.name))
  else ofParts sources parts.flatten

end ODataClient.Schema
