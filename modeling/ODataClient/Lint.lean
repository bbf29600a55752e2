import ODataClient.Diagnostic
import ODataClient.Model.ComplexGraph

/-!
# Lints

Checks on a schema that are made before a model is built from it. Faults stop the service;
warnings and remarks do not.
-/

namespace ODataClient

/-- A check on a schema. -/
structure Lint where
  name : String
  description : String
  /-- The findings about a schema, in the order of its declarations. -/
  check : Schema → List Diagnostic

namespace Lint

def phase : String := "validate"

/-- Whether a set holds entities of the type. -/
def isServed (schema : Schema) (type : Schema.EntityType) : Bool :=
  !(schema.entitySetsOf type.qualifiedName).isEmpty

/-- A complex type must not hold itself. -/
def complexTypeCycle : Lint where
  name := "complex-type-cycle"
  description := "Detect complex types that contain themselves"
  check schema :=
    match (ComplexGraph.ofSchema schema).postOrder with
    | .ok _ => []
    | .error cycle =>
      [{ Diagnostic.ofModelError phase (.complexTypeCycle cycle) with location := cycle.head? }]

/-- Entities that are generated must have a key. -/
def missingKey : Lint where
  name := "missing-key"
  description := "Require a key on every entity type with an entity set"
  check schema :=
    (schema.entityTypes.filter fun type => type.keys.isEmpty && isServed schema type).map
      fun type => (Diagnostic.error phase s!"entity type '{type.name}' has no key").locatedAt
        type.qualifiedName

/-- The qualified name of the entity type that a function import gives back although no set holds
its entities. -/
def orphanType? (schema : Schema) (function : Schema.FunctionImport) : Option String := do
  let text ← function.returnType
  let reference ← (TypeReference.parse text).toOption
  let type ← schema.findEntityType? (← reference.qualifiedName?)
  if isServed schema type then none else some type.qualifiedName

/-- Entities that are given back must be in an entity set. -/
def orphanEntityReturn : Lint where
  name := "orphan-entity-return"
  description := "Require an entity set for entity types returned by function imports"
  check schema :=
    schema.functionImports.filterMap fun function =>
      (orphanType? schema function).map fun type =>
        (Diagnostic.ofModelError phase (.unresolvedEntitySet function.name type)).locatedAt
          function.name

/-- A service should offer something. -/
def emptyService : Lint where
  name := "empty-service"
  description := "Warn about services without entity sets and function imports"
  check schema :=
    if schema.entitySets.isEmpty && schema.functionImports.isEmpty then
      let message := s!"service '{schema.ns}' has neither entity sets nor function imports"
      [(Diagnostic.warning phase message).locatedAt schema.ns]
    else []

/-- Types that no entity set holds are left out. -/
def unusedEntityType : Lint where
  name := "unused-entity-type"
  description := "Report entity types skipped for lack of an entity set"
  check schema :=
    (schema.entityTypes.filter fun type => !isServed schema type).map fun type =>
      (Diagnostic.info phase
        s!"entity type '{type.name}' has no entity set and is not generated").locatedAt
          type.qualifiedName

/-- All lints, in the order in which they are run. -/
def all : List Lint :=
  [complexTypeCycle, missingKey, orphanEntityReturn, emptyService, unusedEntityType]

end Lint

end ODataClient
