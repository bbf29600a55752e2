import ODataClient.Xml.Parts

/-!
# Metadata documents

The constructs that a metadata document spells out, before it is checked that they are complete
and fit together: every attribute may be missing. Names of elements and attributes count without
their prefixes.
-/

namespace ODataClient.Document

structure Property where
  name : Option String
  type : Option String
  nullable : Option String
  maxLength : Option String
  precision : Option String
  scale : Option String
  label : Option String
  quickinfo : Option String

structure NavigationProperty where
  name : Option String
  relationship : Option String
  fromRole : Option String
  toRole : Option String

structure EntityType where
  name : Option String
  label : Option String
  /-- The names of the properties of the key. -/
  keys : List (Option String)
  properties : List Property
  navigation : List NavigationProperty

structure ComplexType where
  name : Option String
  properties : List Property

structure AssociationEnd where
  type : Option String
  multiplicity : Option String
  role : Option String

structure Association where
  name : Option String
  ends : List AssociationEnd

structure EntitySet where
  name : Option String
  type : Option String
  label : Option String

structure Parameter where
  name : Option String
  type : Option String
  mode : Option String
  nullable : Option String
  maxLength : Option String
  label : Option String

structure FunctionImport where
  name : Option String
  returnType : Option String
  entitySet : Option String
  httpMethod : Option String
  label : Option String
  parameters : List Parameter

structure Container where
  name : Option String
  entitySets : List EntitySet
  functionImports : List FunctionImport

/-- One schema of a document. -/
structure Part where
  ns : Option String
  /-- Another name for the namespace. -/
  alternative : Option String
  entityTypes : List EntityType
  complexTypes : List ComplexType
  associations : List Association
  containers : List Container

/-- The kinds of elements in a document. -/
inductive Kind where
  | document
  | services
  | schema
  | entityType
  | key
  | propertyRef
  | property
  | navigationProperty
  | complexType
  | association
  | associationEnd
  | container
  | entitySet
  | functionImport
  | parameter
deriving DecidableEq, Repr

/-- What the elements of each kind may hold. -/
def grammar : Xml.Grammar Kind
  | .document => { repeated := [("DataServices", .services)] }
  | .services => { repeated := [("Schema", .schema)] }
  | .schema => {
      attributes := ["Namespace", "Alias"]
      repeated := [("EntityType", .entityType), ("ComplexType", .complexType),
        ("Association", .association), ("EntityContainer", .container)] }
  | .entityType => {
      attributes := ["Name", "label"]
      repeated := [("Property", .property), ("NavigationProperty", .navigationProperty)]
      optional := [("Key", .key)] }
  | .key => { repeated := [("PropertyRef", .propertyRef)] }
  | .propertyRef => { attributes := ["Name"] }
  | .property => {
      attributes :=
        ["Name", "Type", "Nullable", "MaxLength", "Precision", "Scale", "label", "quickinfo"] }
  | .navigationProperty => { attributes := ["Name", "Relationship", "FromRole", "ToRole"] }
  | .complexType => { attributes := ["Name"], repeated := [("Property", .property)] }
  | .association => { attributes := ["Name"], repeated := [("End", .associationEnd)] }
  | .associationEnd => { attributes := ["Type", "Multiplicity", "Role"] }
  | .container => {
      attributes := ["Name"]
      repeated := [("EntitySet", .entitySet), ("FunctionImport", .functionImport)] }
  | .entitySet => { attributes := ["Name", "EntityType", "label"] }
  | .functionImport => {
      attributes := ["Name", "ReturnType", "EntitySet", "HttpMethod", "label"]
      repeated := [("Parameter", .parameter)] }
  | .parameter => { attributes := ["Name", "Type", "Mode", "Nullable", "MaxLength", "label"] }

def Property.ofParts (parts : Xml.Parts) : Property where
  name := parts.attribute? "Name"
  type := parts.attribute? "Type"
  nullable := parts.attribute? "Nullable"
  maxLength := parts.attribute? "MaxLength"
  precision := parts.attribute? "Precision"
  scale := parts.attribute? "Scale"
  label := parts.attribute? "label"
  quickinfo := parts.attribute? "quickinfo"

def NavigationProperty.ofParts (parts : Xml.Parts) : NavigationProperty where
  name := parts.attribute? "Name"
  relationship := parts.attribute? "Relationship"
  fromRole := parts.attribute? "FromRole"
  toRole := parts.attribute? "ToRole"

/-- The names of properties that a key spells out. -/
def keyNames (parts : Xml.Parts) : List (Option String) :=
  (parts.all "PropertyRef").map (·.attribute? "Name")

def EntityType.ofParts (parts : Xml.Parts) : EntityType where
  name := parts.attribute? "Name"
  label := parts.attribute? "label"
  keys := (parts.all "Key").flatMap keyNames
  properties := (parts.all "Property").map .ofParts
  navigation := (parts.all "NavigationProperty").map .ofParts

def ComplexType.ofParts (parts : Xml.Parts) : ComplexType where
  name := parts.attribute? "Name"
  properties := (parts.all "Property").map .ofParts

def AssociationEnd.ofParts (parts : Xml.Parts) : AssociationEnd where
  type := parts.attribute? "Type"
  multiplicity := parts.attribute? "Multiplicity"
  role := parts.attribute? "Role"

def Association.ofParts (parts : Xml.Parts) : Association where
  name := parts.attribute? "Name"
  ends := (parts.all "End").map .ofParts

def EntitySet.ofParts (parts : Xml.Parts) : EntitySet where
  name := parts.attribute? "Name"
  type := parts.attribute? "EntityType"
  label := parts.attribute? "label"

def Parameter.ofParts (parts : Xml.Parts) : Parameter where
  name := parts.attribute? "Name"
  type := parts.attribute? "Type"
  mode := parts.attribute? "Mode"
  nullable := parts.attribute? "Nullable"
  maxLength := parts.attribute? "MaxLength"
  label := parts.attribute? "label"

def FunctionImport.ofParts (parts : Xml.Parts) : FunctionImport where
  name := parts.attribute? "Name"
  returnType := parts.attribute? "ReturnType"
  entitySet := parts.attribute? "EntitySet"
  httpMethod := parts.attribute? "HttpMethod"
  label := parts.attribute? "label"
  parameters := (parts.all "Parameter").map .ofParts

def Container.ofParts (parts : Xml.Parts) : Container where
  name := parts.attribute? "Name"
  entitySets := (parts.all "EntitySet").map .ofParts
  functionImports := (parts.all "FunctionImport").map .ofParts

def Part.ofParts (parts : Xml.Parts) : Part where
  ns := parts.attribute? "Namespace"
  alternative := parts.attribute? "Alias"
  entityTypes := (parts.all "EntityType").map .ofParts
  complexTypes := (parts.all "ComplexType").map .ofParts
  associations := (parts.all "Association").map .ofParts
  containers := (parts.all "EntityContainer").map .ofParts

/-- The schemas that a document spells out, whatever its root is called. -/
def parse? (text : String) : Option (List Part) := do
  let document ← Xml.Document.ofText? text
  let parts ← document.parts? grammar .document
  return ((parts.all "DataServices").flatMap (·.all "Schema")).map .ofParts

end ODataClient.Document
