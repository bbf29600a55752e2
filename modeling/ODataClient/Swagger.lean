import ODataClient.Json.Parser
import ODataClient.Unicode.Property

/-!
# Swagger documents

The document that may come with the metadata of a service, as far as it is read: the base path, the
link to further documentation, and the descriptions of types and their properties.
-/

namespace ODataClient

namespace Swagger

structure Property where
  title : Option String
  description : Option String
deriving DecidableEq, Repr

structure Definition where
  title : Option String
  description : Option String
  properties : Dictionary Property
deriving DecidableEq, Repr

/-- A link to further documentation. -/
structure Documentation where
  description : Option String
  url : Option String
deriving DecidableEq, Repr

end Swagger

structure Swagger where
  basePath : Option String
  documentation : Option Swagger.Documentation
  definitions : Dictionary Swagger.Definition
deriving DecidableEq, Repr

namespace Swagger

def Property.ofJson? (value : Json) : Option Property := do
  let record ← value.asRecord? ["title", "description"]
  return {
    title := ← Json.optionalText? "title" record
    description := ← Json.optionalText? "description" record }

/-- Reads a field that holds a dictionary, which is empty if it is left out. -/
def dictionaryField? {α : Type} (read : Json → Option α) (field : String)
    (record : List (String × Json)) : Option (Dictionary α) :=
  match record.lookup field with
  | none => some []
  | some value => value.asDictionary? read

def Definition.ofJson? (value : Json) : Option Definition := do
  let record ← value.asRecord? ["title", "description", "properties"]
  return {
    title := ← Json.optionalText? "title" record
    description := ← Json.optionalText? "description" record
    properties := ← dictionaryField? Property.ofJson? "properties" record }

def Documentation.ofJson? (value : Json) : Option Documentation := do
  let record ← value.asRecord? ["description", "url"]
  return {
    description := ← Json.optionalText? "description" record
    url := ← Json.optionalText? "url" record }

def ofJson? (value : Json) : Option Swagger := do
  let record ← value.asRecord? ["basePath", "externalDocs", "definitions"]
  let documentation ← match record.lookup "externalDocs" with
    | none | some .null => pure none
    | some value => (Documentation.ofJson? value).map some
  return {
    basePath := ← Json.optionalText? "basePath" record
    documentation
    definitions := ← dictionaryField? Definition.ofJson? "definitions" record }

def parse? (text : String) : Option Swagger :=
  (Json.parse? text).bind ofJson?

variable (swagger : Swagger)

def documentationUrl? : Option String :=
  swagger.documentation.bind Documentation.url

/-- The definition of a type, under its qualified name or else under its name alone. -/
def definition? (ns type : String) : Option Definition :=
  (swagger.definitions.get? (ns ++ "." ++ type)).or (swagger.definitions.get? type)

/-- The description, or the title in its place, unless it is blank. -/
def describe? (description title : Option String) : Option String :=
  (description.or title).filter fun text => !(Unicode.trim text.toList).isEmpty

/-- What the document says about a type. -/
def typeDescription? (ns type : String) : Option String := do
  let definition ← swagger.definition? ns type
  describe? definition.description definition.title

/-- What the document says about a property of a type. -/
def propertyDescription? (ns type property : String) : Option String := do
  let definition ← swagger.definition? ns type
  let property ← definition.properties.get? property
  describe? property.description property.title

end Swagger

end ODataClient
