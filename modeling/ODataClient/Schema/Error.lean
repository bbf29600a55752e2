import ODataClient.Schema.Source
import ODataClient.Schema.TypeReference

/-!
# Errors in metadata documents

Why the metadata documents of a service are refused, where the fault stands, and what is said
about it.
-/

namespace ODataClient

/-- The constructs of a schema that messages speak of. -/
inductive Construct where
  /-- A schema without a namespace. -/
  | anySchema
  | schema (ns : String)
  /-- A type, by its name alone. -/
  | typeNamed (name : String)
  | property (name type : String)
  | key (type : String)
  | navigationProperty (name type : String)
  | association (name : String)
  | entityContainer (name : String)
  | entitySet (name : String)
  | functionImport (name : String)
  | returnType (function : String)
  | parameter (name function : String)
  | resultSet (function : String)
  /-- Nothing is said about the construct. -/
  | unnamed
deriving DecidableEq, Repr

def Construct.label : Construct → String
  | anySchema => "schema"
  | schema ns => s!"schema '{ns}'"
  | typeNamed name => s!"'{name}'"
  | property name type => s!"property '{name}' of '{type}'"
  | key type => s!"key of '{type}'"
  | navigationProperty name type => s!"navigation property '{name}' of '{type}'"
  | association name => s!"association '{name}'"
  | entityContainer name => s!"entity container '{name}'"
  | entitySet name => s!"entity set '{name}'"
  | functionImport name => s!"function import '{name}'"
  | returnType function => s!"return type of function import '{function}'"
  | parameter name function => s!"parameter '{name}' of function import '{function}'"
  | resultSet function => s!"entity set of function import '{function}'"
  | unnamed => ""

/-- The kinds of constructs whose names must be unique in a service. -/
inductive DeclarationKind where
  | entityType
  | complexType
  | association
  | entitySet
  | functionImport
deriving DecidableEq, Repr

def DeclarationKind.label : DeclarationKind → String
  | entityType => "entity type"
  | complexType => "complex type"
  | association => "association"
  | entitySet => "entity set"
  | functionImport => "function import"

/-- Why metadata documents are refused. -/
inductive SchemaError where
  /-- The document is not well-formed or not made up as metadata is. -/
  | malformed (document : String)
  /-- No document holds a schema. -/
  | noSchema (documents : List String)
  | missingAttribute (site : Site) (element required : String) (place : Construct)
  | invalidTypeReference (site : Site) (reference : String) (place : Construct)
      (reason : TypeReferenceError)
  | invalidMultiplicity (site : Site) (association multiplicity : String)
  | unknownKeyProperty (site : Site) (entityType key : String)
  | unresolvedType (site : Site) (reference : String) (place : Construct)
  | unresolvedAssociation (site : Site) (entityType property relationship : String)
  | unresolvedRole (site : Site) (entityType property association role : String)
  | duplicateName (site : Site) (kind : DeclarationKind) (name first second : String)
deriving DecidableEq, Repr

namespace SchemaError

def message : SchemaError → String
  | malformed document => s!"failed to parse EDMX document '{document}'"
  | noSchema documents => "no <Schema> element found in " ++ ", ".intercalate documents
  | missingAttribute _ element required place =>
    s!"<{element}> is missing required attribute '{required}' in {place.label}"
  | invalidTypeReference _ reference place _ =>
    s!"invalid type reference '{reference}' in {place.label}"
  | invalidMultiplicity _ association multiplicity =>
    s!"invalid multiplicity '{multiplicity}' on association '{association}'"
  | unknownKeyProperty _ entityType key =>
    s!"key property '{key}' is not declared on entity type '{entityType}'"
  | unresolvedType _ reference place => s!"{place.label} references unknown type '{reference}'"
  | unresolvedAssociation _ entityType property relationship =>
    s!"navigation property '{property}' of '{entityType}' references unknown association " ++
      s!"'{relationship}'"
  | unresolvedRole _ entityType property association role =>
    s!"navigation property '{property}' of '{entityType}' uses role '{role}' which association " ++
      s!"'{association}' does not declare"
  | duplicateName _ kind name first second =>
    s!"{kind.label} '{name}' is declared in both '{first}' and '{second}'"

def code : SchemaError → String
  | malformed .. => "vdmgen::edmx::xml"
  | noSchema .. => "vdmgen::edmx::missing_schema"
  | missingAttribute .. => "vdmgen::edmx::missing_attribute"
  | invalidTypeReference .. => "vdmgen::edmx::invalid_type_reference"
  | invalidMultiplicity .. => "vdmgen::edmx::invalid_multiplicity"
  | unknownKeyProperty .. => "vdmgen::edmx::unknown_key_property"
  | unresolvedType .. => "vdmgen::edmx::unresolved_type"
  | unresolvedAssociation .. => "vdmgen::edmx::unresolved_association"
  | unresolvedRole .. => "vdmgen::edmx::unresolved_role"
  | duplicateName .. => "vdmgen::edmx::duplicate_name"

def help? : SchemaError → Option String
  | malformed .. =>
    some "the document must be well-formed EDMX (edmx:Edmx / edmx:DataServices / Schema)"
  | noSchema .. => some "only OData V2 metadata with at least one schema is supported"
  | invalidTypeReference .. =>
    some "expected 'Edm.<Type>', 'Namespace.Name' or 'Collection(...)'"
  | invalidMultiplicity .. => some "multiplicity must be one of '1', '0..1' or '*'"
  | unresolvedType .. => some "declare the type in one of the service's schemas"
  | duplicateName .. => some "names must be unique across all schemas of a service"
  | missingAttribute .. | unknownKeyProperty .. | unresolvedAssociation .. | unresolvedRole .. =>
    none

/-- Where the fault stands, for the errors that point at a place. -/
def site? : SchemaError → Option Site
  | malformed .. | noSchema .. => none
  | missingAttribute site .. | invalidTypeReference site .. | invalidMultiplicity site ..
  | unknownKeyProperty site .. | unresolvedType site .. | unresolvedAssociation site ..
  | unresolvedRole site .. | duplicateName site .. => some site

/-- The words that mark the place of the fault. -/
def siteLabel : SchemaError → String
  | invalidTypeReference .. | unresolvedType .. | unresolvedAssociation .. | unresolvedRole .. =>
    "referenced here"
  | unknownKeyProperty .. => "key declared here"
  | duplicateName .. => "second declaration"
  | malformed .. | noSchema .. | missingAttribute .. | invalidMultiplicity .. => "declared here"

/-- The document that is at fault. -/
def document? (error : SchemaError) : Option String :=
  match error with
  | malformed document => some document
  | _ => error.site?.map (·.source.name)

end SchemaError

end ODataClient
