import ODataClient.Proofs.Model.Integrity
import ODataClient.Proofs.TypeScript.ServiceNames

/-!
# Typing of a model

Values of primitive types are typed as the language types their primitive, and all other values as
parts of the model.
-/

namespace ODataClient

theorem TargetLanguage.primitive_eq_ok {language : TargetLanguage} {name : String}
    {mapping : PrimitiveMapping} (known : language.primitive name = .ok mapping) :
    ∃ type : EdmType, EdmType.ofName name = .ok type ∧
      mapping.targetType = language.targetType type ∧
        mapping.fieldType = language.fieldType type := by
  obtain ⟨type, found, mapped⟩ := Outcome.bind_eq_ok_iff.1 known
  cases mapped
  exact ⟨type, found, rfl, rfl⟩

namespace TypeScript

open Service (Entity ComplexType FunctionImport Property)

variable {service : Service} {entity : Entity} {type : ComplexType} {function : FunctionImport}
  {property : Property}

/-- A property that is typed as the primitive that its values are of. -/
def IsPrimitive (property : Property) : Prop :=
  ∃ type : EdmType, property.targetType = targetType type ∧ property.fieldType = fieldType type

/-- A property of primitive values, or else of values of one of the given complex types. -/
structure IsWellTyped (complexTypes : List ComplexType) (property : Property) : Prop where
  primitive : property.isComplex = false → IsPrimitive property
  complex : property.isComplex = true → ∃ type ∈ complexTypes,
    type.typeName = property.targetType ∧ type.fieldType = property.fieldType

/-- What a function gives back is typed as a primitive or as a part of the model. -/
inductive IsTypedResult (service : Service) : Service.Result → Prop
  | void : IsTypedResult service .void
  | primitive (type : EdmType) (edmType builderFunction : String) (isMulti : Bool) :
      IsTypedResult service (.primitive edmType (targetType type) builderFunction isMulti)
  | complex {type : ComplexType} (member : type ∈ service.complexTypes)
      (factoryName builderFunction : String) (isMulti : Bool) :
      IsTypedResult service (.complex type.typeName factoryName builderFunction isMulti)
  | entity {entity : Entity} (member : entity ∈ service.entities) (isMulti : Bool) :
      IsTypedResult service (.entity entity.className isMulti)

/-- A model whose values are typed as the language types them. -/
structure IsTypedModel (service : Service) : Prop where
  entityProperties : ∀ entity ∈ service.entities, ∀ property ∈ entity.properties,
    IsWellTyped service.complexTypes property
  keys : ∀ entity ∈ service.entities, entity.keys ⊆ entity.properties
  navigation : ∀ entity ∈ service.entities, ∀ navigation ∈ entity.navigation,
    ∃ target ∈ service.entities, target.className = navigation.targetClass
  complexProperties : ∀ type ∈ service.complexTypes, ∀ property ∈ type.properties,
    IsWellTyped service.complexTypes property
  fieldTypes : ∀ type ∈ service.complexTypes, type.fieldType = type.typeName ++ "Field"
  parameters : ∀ function ∈ service.functionImports, ∀ parameter ∈ function.parameters,
    ∃ type : EdmType, parameter.targetType = targetType type
  results : ∀ function ∈ service.functionImports, IsTypedResult service function.result

section Model

variable {input : ModelInput} {types : List Schema.ComplexType}
  {complex : Dictionary Model.ComplexNames} {registry : Name.Registry} {findings : List Diagnostic}

theorem exists_type_of_isTyped {element : ElementType} {typing : Model.PropertyType}
    (typed : Model.IsTyped language complex element typing) (primitive : typing.isComplex = false) :
    ∃ type : EdmType, typing.targetType = targetType type ∧ typing.fieldType = fieldType type := by
  cases typed with
  | primitive known =>
      obtain ⟨type, -, typing⟩ := TargetLanguage.primitive_eq_ok known
      exact ⟨type, typing⟩
  | declared named => contradiction

theorem isWellTyped_of_isPropertyOf {owner : String} {isKey : Bool} {source : Schema.Property}
    (made : Model.IsPropertyOf language complex registry owner isKey source property)
    (known : Model.IsOfKnownType service.complexTypes property) :
    IsWellTyped service.complexTypes property := by
  constructor
  · intro isPrimitive
    obtain ⟨reference, -, typed⟩ := made.typing
    exact exists_type_of_isTyped typed isPrimitive
  · intro isComplex
    obtain ⟨type, member, -, typeName, fieldType⟩ := known.complex isComplex
    exact ⟨type, member, typeName, fieldType⟩

theorem targetType_of_isResultOf {source : Schema.FunctionImport} {result : Service.Result}
    {edmType target builderFunction : String} {isMulti : Bool}
    (isResult : Model.IsResultOf language input complex registry source result)
    (isPrimitive : result = .primitive edmType target builderFunction isMulti) :
    ∃ type : EdmType, target = targetType type := by
  cases isResult with
  | primitive _ _ _ known =>
      obtain ⟨type, -, typed, -⟩ := TargetLanguage.primitive_eq_ok known
      cases isPrimitive
      exact ⟨type, typed⟩
  | void | complex | entity => contradiction

theorem isTypedResult_of_isKnownResult {source : Schema.FunctionImport} {result : Service.Result}
    (known : Model.IsKnownResult input service source result)
    (isResult : Model.IsResultOf language input complex registry source result) :
    IsTypedResult service result := by
  cases known with
  | void => exact .void
  | primitive =>
      obtain ⟨type, rfl⟩ := targetType_of_isResultOf isResult rfl
      exact .primitive type ..
  | complex _ _ member => exact .complex member ..
  | entity _ _ represents => exact .entity (List.of_mem_zip represents).2 _

theorem isTypedModel_of_isModelOf
    (model : Model.IsModelOf language input types complex registry service findings) :
    IsTypedModel service := by
  have closed := Model.isClosed_of_isModelOf model
  constructor
  · intro entity member property isProperty
    obtain ⟨set, -, ⟨source, -, made⟩, -⟩ := model.entities.exists_of_mem_right member
    obtain ⟨_, -, isPropertyOf⟩ := made.properties.exists_of_mem_right isProperty
    exact isWellTyped_of_isPropertyOf isPropertyOf
      (closed.entityProperties entity member property isProperty)
  · exact closed.keys
  · intro entity member navigation isNavigation
    obtain ⟨set, -, source, sources, -, -, leads⟩ := closed.navigation.exists_of_mem_right member
    obtain ⟨_, -, target, targetSet, targetEntity, leadsTo⟩ :=
      leads.exists_of_mem_right isNavigation
    exact ⟨targetEntity, (List.of_mem_zip leadsTo.represents).2, leadsTo.targetClass.symm⟩
  · intro type member property isProperty
    obtain ⟨before, after, split⟩ := List.append_of_mem member
    obtain ⟨source, -, made⟩ := model.complexTypes.exists_of_mem_right member
    obtain ⟨_, -, isPropertyOf⟩ := made.properties.exists_of_mem_right isProperty
    have known := closed.complexProperties before type after split property isProperty
    refine isWellTyped_of_isPropertyOf isPropertyOf ⟨fun isComplex => ?_, known.primitive⟩
    obtain ⟨earlier, isEarlier, found⟩ := known.complex isComplex
    exact ⟨earlier, split ▸ List.mem_append_left _ isEarlier, found⟩
  · exact fun type member => (Model.isNamesOf_of_mem model member).fieldType
  · intro function member parameter isParameter
    obtain ⟨source, -, made⟩ := model.functionImports.exists_of_mem_right member
    obtain ⟨_, -, isParameterOf⟩ := made.parameters.exists_of_mem_right isParameter
    obtain ⟨mapping, known, mapped⟩ := isParameterOf.targetType
    obtain ⟨type, -, typed, -⟩ := TargetLanguage.primitive_eq_ok known
    exact ⟨type, mapped.trans typed⟩
  · intro function member
    obtain ⟨source, paired⟩ := model.functionImports.exists_mem_zip_right member
    have made := List.forall₂_zip model.functionImports paired
    have known := Model.isKnownResult_of_isResultOf model made.result
    exact isTypedResult_of_isKnownResult known made.result

end Model

end TypeScript

end ODataClient
