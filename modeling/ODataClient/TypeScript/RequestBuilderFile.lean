import ODataClient.TypeScript.EntityFile

/-!
# Files of request builders

The file of a request builder has the class whose methods start the requests for one entity.
-/

namespace ODataClient.TypeScript

open Code (Imports)
open Service (Entity)

namespace RequestBuilderFile

variable (entity : Entity)

def imports : Imports :=
  let builders := Imports.none.values coreModule
    ["CreateRequestBuilder", "DeleteRequestBuilder", "GetAllRequestBuilder",
      "GetByKeyRequestBuilder", "RequestBuilder", "UpdateRequestBuilder"]
  (entity.keys.foldl (fun imports key => importValueType imports key.targetType) builders).value
    (siblingModule entity.className) entity.className

/-- The key properties as parameters. -/
def keyParameters : List Parameter :=
  entity.keys.map fun key => { name := key.parameterName, type := key.targetType }

/-- What the comments say about the key properties. -/
def keyDoc : String :=
  String.join (entity.keys.map fun key =>
    s!"\n@param {key.parameterName} Key property. See [[{entity.className}.{key.instanceName}]].")

/-- The method that starts requests of one kind. -/
def method (name doc outcome kind arguments : String) (parameters : List Parameter) : Method where
  name
  doc := some (s!"Returns a request builder for {doc}\n" ++
    s!"@returns A request builder for creating requests {outcome}.")
  parameters
  result := some s!"{kind}RequestBuilder<{entity.className}>"
  body := Text.lines s!"return new {kind}RequestBuilder({entity.className}{arguments});"

def methods : List Method :=
  let className := entity.className
  let keys := keyParameters entity
  let keyArguments := ", " ++ keyObject entity.keys (·.parameterName)
  let instanceParameter : List Parameter := [{ name := "entity", type := className }]
  [method entity "getByKey"
     s!"retrieving one `{className}` entity based on its keys.{keyDoc entity}"
     s!"to retrieve one `{className}` entity based on its keys" "GetByKey" keyArguments keys,
   method entity "getAll" s!"querying all `{className}` entities."
     s!"to retrieve all `{className}` entities" "GetAll" "" [],
   method entity "create"
     s!"creating a `{className}` entity.\n@param entity The entity to be created"
     s!"that create an entity of type `{className}`" "Create" ", entity" instanceParameter,
   method entity "update"
     s!"updating an entity of type `{className}`.\n@param entity The entity to be updated"
     s!"that update an entity of type `{className}`" "Update" ", entity" instanceParameter,
   method entity "delete" s!"deleting an entity of type `{className}`.{keyDoc entity}"
     s!"that delete an entity of type `{className}`" "Delete" keyArguments keys]

def classDeclaration : Class where
  name := requestBuilderClass entity
  doc := some ("Request builder class for operations supported on the " ++
    s!"[[{entity.className}]] entity.")
  base := some s!"RequestBuilder<{entity.className}>"
  members := (methods entity).map .method

end RequestBuilderFile

def requestBuilderFile (entity : Entity) : SourceFile where
  imports := RequestBuilderFile.imports entity
  body := [.classDeclaration (RequestBuilderFile.classDeclaration entity)]

end ODataClient.TypeScript
