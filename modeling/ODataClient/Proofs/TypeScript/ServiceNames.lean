import ODataClient.Proofs.Model.Distinctness
import ODataClient.Proofs.Model.Integrity
import ODataClient.Proofs.Pipeline.Standard
import ODataClient.Proofs.Schema.Structure
import ODataClient.Proofs.TypeScript.Spelling
import ODataClient.TypeScript.EntityFile

/-!
# Names of a service

What is known of the names of types and functions in a model that the standard phases have made.
Types that the registry knows under different keys have different names, none of them one that the
runtime needs. Names that are made of these later are not compared with any.
-/

namespace ODataClient.TypeScript

open Unicode

/-- What the registry sees to for the names of a service. -/
structure IsNamed (service : Service) : Prop where
  keys_iff : service.constructKeys.Nodup ↔ service.typeNames.Nodup
  classes : (service.entities.map (·.className)).Nodup
  complexTypes : (service.complexTypes.map (·.typeName)).Nodup
  parametersTypes : (service.functionImports.map (·.parametersTypeName)).Nodup
  functions : service.functionNames.Nodup
  fieldTypes : ∀ type ∈ service.complexTypes, type.fieldType = type.typeName ++ "Field"
  typesSpelled : ∀ name ∈ service.typeNames, BeginsNotSmall name.toList
  functionsSpelled : ∀ name ∈ service.functionNames, BeginsNotCapital name.toList
  runtime : service.typeNames.Disjoint runtimeTypes

/-- Whether the names of types are made of characters that may stand in names. -/
def IsSpelled (service : Service) : Prop := ∀ name ∈ service.typeNames, IsNameText name.toList

variable {types : List Schema.ComplexType} {complex : Dictionary Model.ComplexNames}
  {registry : Name.Registry} {service : Service} {findings : List Diagnostic}

/-- The constructs of each kind have different keys, where the schema has been accepted. -/
theorem nodup_keys {input : ModelInput} {sources : List Source}
    (model : Model.IsModelOf language input types complex registry service findings)
    (accepted : Schema.parse sources = .ok input.schema) :
    (service.entities.map (·.entitySetName)).Nodup ∧
      (service.complexTypes.map (·.qualifiedName)).Nodup ∧
      (service.functionImports.map (·.originalName)).Nodup := by
  refine ⟨?_, ?_, ?_⟩
  · have names : input.schema.entitySets.map (·.name) = service.entities.map (·.entitySetName) := by
      apply model.entities.map_eq_map
      rintro set entity ⟨⟨type, -, made⟩, -⟩
      exact made.entitySetName.symm
    exact names ▸ Schema.nodup_names_of_parse accepted .entitySet
  · have names : types.map (·.qualifiedName) = service.complexTypes.map (·.qualifiedName) :=
      model.complexTypes.map_eq_map fun _ _ made => made.qualifiedName.symm
    exact names ▸ model.ordered.distinct
  · have names : input.schema.functionImports.map (·.name) =
        service.functionImports.map (·.originalName) :=
      model.functionImports.map_eq_map fun _ _ made => made.originalName.symm
    exact names ▸ Schema.nodup_names_of_parse accepted .functionImport

variable {input : ServiceInput} {schema : Schema}

/-- The names in a model of the standard phases are as the registry gives them. -/
theorem isNamed_of_isBuilt (made : Pipeline.IsBuilt language input schema service findings) :
    IsNamed service := by
  obtain ⟨reported, built, -⟩ := made.built
  obtain ⟨last, grows, types, complex, model⟩ := Model.isModelOf_of_buildFrom built
  have consistent := grows.consistent (Name.Registry.consistent_empty _ _)
  have conventional := grows.isConventional (Name.Registry.isConventional_empty _ _)
  have spelled : last.convention = naming := grows.isExtended.convention
  obtain ⟨sets, complexTypes, functions⟩ := nodup_keys model made.accepted
  have distinct := Model.hasDistinctNames_of_isModelOf grows model
  constructor
  · exact distinct.types.nodup_iff
  · have apart := consistent.areNamedApart fun entity => Model.lookup_className model
    exact apart.nodup_iff.1 sets
  · have apart := consistent.areNamedApart fun type member =>
      (Model.isNamesOf_of_mem model member).typeName
    exact apart.nodup_iff.1 complexTypes
  · have keys : (service.functionImports.map (·.originalName ++ "()")).Nodup := by
      have bracketed := functions.map (fun _ _ => (String.append_left_inj "()").1)
      rwa [List.map_map] at bracketed
    have apart := consistent.areNamedApart fun function => Model.lookup_parametersTypeName model
    exact apart.nodup_iff.1 keys
  · exact distinct.functions.nodup_iff.1 functions
  · exact fun type member => (Model.isNamesOf_of_mem model member).fieldType
  · intro name member
    obtain ⟨named, isNamed, rfl⟩ := List.mem_map.1 member
    exact beginsNotSmall_of_lookup spelled conventional (Model.lookup_namedTypes model isNamed)
  · intro name member
    obtain ⟨function, isFunction, rfl⟩ := List.mem_map.1 member
    have held := Model.lookup_functionName model isFunction
    exact beginsNotCapital_of_lookup spelled conventional held
  · exact distinct.runtime

theorem isSpelled_of_isBuilt (made : Pipeline.IsBuilt language input schema service findings) :
    IsSpelled service := by
  obtain ⟨reported, built, -⟩ := made.built
  obtain ⟨last, grows, types, complex, model⟩ := Model.isModelOf_of_buildFrom built
  have conventional := grows.isConventional (Name.Registry.isConventional_empty _ _)
  have spelled : last.convention = naming := grows.isExtended.convention
  intro name member
  obtain ⟨named, isNamed, rfl⟩ := List.mem_map.1 member
  exact isNameText_of_lookup spelled conventional (Model.lookup_namedTypes model isNamed)

end ODataClient.TypeScript
