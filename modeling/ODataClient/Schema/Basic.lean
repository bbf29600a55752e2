import ODataClient.Unicode.Property

/-!
# Schemas of a service

What the metadata documents of one service declare, as far as a client is made from it: entity and
complex types, associations, entity sets and function imports. Names and type references are kept
as the texts found there. All lists are in the order of the documents.
-/

namespace ODataClient

namespace Schema

/-- A property of an entity or complex type. -/
structure Property where
  name : String
  /-- The type reference. -/
  type : String
  nullable : Option Bool
  maxLength : Option String
  precision : Option String
  scale : Option String
  label : Option String
  quickinfo : Option String
deriving DecidableEq, Repr

/-- A way from an entity to the entities at the other end of an association. -/
structure NavigationProperty where
  name : String
  /-- The qualified name of the association. -/
  relationship : String
  fromRole : String
  toRole : String
deriving DecidableEq, Repr

structure EntityType where
  ns : String
  name : String
  /-- The names of the properties that make up the key. -/
  keys : List String
  properties : List Property
  navigation : List NavigationProperty
  label : Option String
deriving DecidableEq, Repr

/-- A type of structured values. -/
structure ComplexType where
  ns : String
  name : String
  properties : List Property
deriving DecidableEq, Repr

/-- How many entities stand at the end of an association. -/
inductive Multiplicity where
  | one
  | zeroOrOne
  | many
deriving DecidableEq, Repr

structure AssociationEnd where
  /-- The qualified name of the entity type at this end. -/
  type : String
  multiplicity : Multiplicity
  role : String
deriving DecidableEq, Repr

/-- A relationship between entity types. -/
structure Association where
  ns : String
  name : String
  ends : List AssociationEnd
deriving DecidableEq, Repr

structure EntitySet where
  name : String
  /-- The qualified name of the entity type. -/
  type : String
  label : Option String
deriving DecidableEq, Repr

structure Parameter where
  name : String
  /-- The type reference. -/
  type : String
  nullable : Option Bool
  maxLength : Option String
  mode : Option String
  label : Option String
deriving DecidableEq, Repr

/-- An operation of the service. -/
structure FunctionImport where
  name : String
  /-- The reference to the type of the result, if there is a result. -/
  returnType : Option String
  /-- The entity set that returned entities belong to. -/
  entitySet : Option String
  httpMethod : String
  label : Option String
  parameters : List Parameter
deriving DecidableEq, Repr

end Schema

/-- Everything that the metadata documents of a service declare. -/
structure Schema where
  /-- The namespace of the part with the entity container. -/
  ns : String := ""
  /-- The namespaces of all parts. -/
  namespaces : List String := []
  entityTypes : List Schema.EntityType := []
  complexTypes : List Schema.ComplexType := []
  associations : List Schema.Association := []
  entitySets : List Schema.EntitySet := []
  functionImports : List Schema.FunctionImport := []
deriving DecidableEq, Repr

namespace Schema

/-- The name of a construct together with its namespace. -/
def EntityType.qualifiedName (type : EntityType) : String := type.ns ++ "." ++ type.name

def ComplexType.qualifiedName (type : ComplexType) : String := type.ns ++ "." ++ type.name

def Association.qualifiedName (association : Association) : String :=
  association.ns ++ "." ++ association.name

/-- Whether a property belongs to the key. -/
def EntityType.isKey (type : EntityType) (property : String) : Bool :=
  type.keys.contains property

/-- The end that plays a role. -/
def Association.findEnd? (association : Association) (role : String) : Option AssociationEnd :=
  association.ends.find? (·.role = role)

namespace Multiplicity

/-- Reads a multiplicity. Blanks around it do not count. -/
def parse? (text : String) : Option Multiplicity :=
  let trimmed := String.ofList (Unicode.trim text.toList)
  if trimmed = "1" then some one
  else if trimmed = "0..1" then some zeroOrOne
  else if trimmed = "*" then some many
  else none

/-- Whether any number of entities may stand at the end. -/
def isMany (multiplicity : Multiplicity) : Bool := multiplicity = many

end Multiplicity

variable (schema : Schema)

def findEntityType? (qualifiedName : String) : Option EntityType :=
  schema.entityTypes.find? (·.qualifiedName = qualifiedName)

def findComplexType? (qualifiedName : String) : Option ComplexType :=
  schema.complexTypes.find? (·.qualifiedName = qualifiedName)

def findAssociation? (qualifiedName : String) : Option Association :=
  schema.associations.find? (·.qualifiedName = qualifiedName)

def findEntitySet? (name : String) : Option EntitySet :=
  schema.entitySets.find? (·.name = name)

/-- The entity sets whose entities are of a type. -/
def entitySetsOf (qualifiedName : String) : List EntitySet :=
  schema.entitySets.filter (·.type = qualifiedName)

/-- Whether one of the parts has the namespace. -/
def declaresNamespace (ns : String) : Bool :=
  schema.namespaces.contains ns

end Schema

end ODataClient
