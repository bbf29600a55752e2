import ODataClient.Proofs.Model.Coupling
import ODataClient.Proofs.Dictionary

/-!
# Parts of two models

What is built of two inputs that differ only in auxiliary inputs, or else only in function imports,
part by part. The parts are the same up to their descriptions, or else up to their factories.
-/

namespace ODataClient

namespace Leeway

open Service (Property Entity ComplexType Result FunctionImport)

/-- A description, unless it may differ. -/
def description : Leeway → String → String
  | auxiliary, _ => ""
  | factories, text => text

variable (leeway : Leeway)

def names (names : Model.ComplexNames) : Model.ComplexNames :=
  { names with factoryName := leeway.factory names.factoryName }

def property (property : Property) : Property :=
  { property with description := leeway.description property.description }

def entity (entity : Entity) : Entity :=
  { entity with
    description := leeway.description entity.description
    properties := entity.properties.map leeway.property
    keys := entity.keys.map leeway.property }

def complexType (type : ComplexType) : ComplexType :=
  { type with
    factoryName := leeway.factory type.factoryName
    description := leeway.description type.description
    properties := type.properties.map leeway.property }

def result : Result → Result
  | .complex typeName factoryName builderFunction isMulti =>
    .complex typeName (leeway.factory factoryName) builderFunction isMulti
  | result => result

def functionImport (function : FunctionImport) : FunctionImport :=
  { function with result := leeway.result function.result }

end Leeway

namespace Model

open Build

/-- Two inputs that differ in function imports and auxiliary inputs only. Where their descriptions
may not differ, neither do their Swagger documents. -/
structure Counterparts (leeway : Leeway) (first second : ModelInput) : Prop where
  schema : ∃ functionImports, second.schema = { first.schema with functionImports }
  swagger : leeway = .factories → second.swagger = first.swagger

variable {leeway : Leeway} {language : TargetLanguage} {first second : ModelInput}
  {complex others : Dictionary ComplexNames}

namespace Counterparts

variable (counterparts : Counterparts leeway first second)

include counterparts

theorem entitySets : second.schema.entitySets = first.schema.entitySets := by
  obtain ⟨functionImports, schema⟩ := counterparts.schema
  rw [schema]

theorem complexTypes : second.schema.complexTypes = first.schema.complexTypes := by
  obtain ⟨functionImports, schema⟩ := counterparts.schema
  rw [schema]

theorem findEntityType? : second.schema.findEntityType? = first.schema.findEntityType? := by
  obtain ⟨functionImports, schema⟩ := counterparts.schema
  rw [schema]
  rfl

theorem entitySetsOf : second.schema.entitySetsOf = first.schema.entitySetsOf := by
  obtain ⟨functionImports, schema⟩ := counterparts.schema
  rw [schema]
  rfl

theorem navigationEnd? : navigationEnd? second = navigationEnd? first := by
  obtain ⟨functionImports, schema⟩ := counterparts.schema
  unfold Model.navigationEnd?
  rw [schema]
  rfl

theorem resultSet? : resultSet? second = resultSet? first := by
  obtain ⟨functionImports, schema⟩ := counterparts.schema
  unfold Model.resultSet?
  rw [schema]
  rfl

theorem orderedComplexTypes :
    orderedComplexTypes second.schema = orderedComplexTypes first.schema := by
  obtain ⟨functionImports, schema⟩ := counterparts.schema
  rw [schema]
  rfl

theorem describeType {ns type : String} {label : Option String} :
    leeway.description (first.describeType ns type label) =
      leeway.description (second.describeType ns type label) := by
  cases leeway with
  | auxiliary => rfl
  | factories => rw [ModelInput.describeType, ModelInput.describeType, counterparts.swagger rfl]

theorem describeProperty {ns type : String} {property : Schema.Property} :
    leeway.description (first.describeProperty ns type property) =
      leeway.description (second.describeProperty ns type property) := by
  cases leeway with
  | auxiliary => rfl
  | factories =>
      rw [ModelInput.describeProperty, ModelInput.describeProperty, counterparts.swagger rfl]

end Counterparts

/-- Names kept for complex types that are the same up to factories. -/
def AlikeNames (leeway : Leeway) (complex others : Dictionary ComplexNames) : Prop :=
  complex.mapValues leeway.names = others.mapValues leeway.names

/-- Both builds know the names of a complex type, or neither does. -/
theorem AlikeNames.get? (alike : AlikeNames leeway complex others) (key : String) :
    (complex.get? key = none ∧ others.get? key = none) ∨
      ∃ names same, complex.get? key = some names ∧ others.get? key = some same ∧
        names.typeName = same.typeName ∧ names.fieldType = same.fieldType ∧
          leeway.factory names.factoryName = leeway.factory same.factoryName := by
  have looked : (complex.get? key).map leeway.names = (others.get? key).map leeway.names := by
    rw [← Dictionary.get?_mapValues, alike, Dictionary.get?_mapValues]
  cases found : complex.get? key with
  | none =>
      rw [found, Option.map_none, eq_comm, Option.map_eq_none_iff] at looked
      exact .inl ⟨rfl, looked⟩
  | some names =>
      rw [found, Option.map_some, eq_comm, Option.map_eq_some_iff] at looked
      obtain ⟨same, foundToo, looked⟩ := looked
      obtain ⟨typeName, factoryName, fieldType⟩ := ComplexNames.mk.inj looked
      exact .inr ⟨names, same, rfl, foundToo, typeName.symm, fieldType.symm, factoryName.symm⟩

section Steps

variable (counterparts : Counterparts leeway first second)

include counterparts

theorem couples_entityClasses :
    Couples leeway id (entityClasses first) (entityClasses second) := by
  unfold entityClasses
  rw [counterparts.entitySets, counterparts.findEntityType?]
  refine couples_mapM_id fun set _ => ?_
  cases first.schema.findEntityType? set.type with
  | none => exact couples_fail
  | some type =>
      exact Couples.bind_id (couples_name leeway.space_ne.1) fun _ => couples_pure rfl

theorem couples_complexNames : Couples leeway (Dictionary.mapValues leeway.names)
    (complexNames language first) (complexNames language second) := by
  unfold complexNames
  rw [counterparts.complexTypes]
  have entries : ∀ type ∈ first.schema.complexTypes, Couples leeway
      (fun entry : String × ComplexNames => (entry.1, leeway.names entry.2)) (do
        let typeName ← Build.name (.complexType type.qualifiedName type.name)
        let factoryName ← Build.name (.factory type.qualifiedName typeName)
        return (type.qualifiedName,
          ({ typeName, factoryName, fieldType := language.complexFieldType typeName } :
            ComplexNames))) (do
        let typeName ← Build.name (.complexType type.qualifiedName type.name)
        let factoryName ← Build.name (.factory type.qualifiedName typeName)
        return (type.qualifiedName,
          ({ typeName, factoryName, fieldType := language.complexFieldType typeName } :
            ComplexNames))) := by
    intro type _
    refine Couples.bind_id (couples_name leeway.space_ne.1) fun typeName => ?_
    refine couples_factory.bind fun factoryName another same => couples_pure ?_
    simp only [Leeway.names, same]
  refine (couples_mapM entries).bind fun made others same => couples_pure ?_
  rw [Dictionary.mapValues_ofEntries, Dictionary.mapValues_ofEntries, same]

variable (alike : AlikeNames leeway complex others)

include alike

omit counterparts in
theorem couples_propertyType {owner : String} {source : Schema.Property} :
    Couples leeway id (propertyType language complex owner source)
      (propertyType language others owner source) := by
  refine couples_typeReference.bind_id fun reference => ?_
  cases reference.element with
  | primitive name => exact couples_primitive.bind_id fun _ => couples_pure rfl
  | declared ns name =>
      dsimp only
      rcases alike.get? (ns ++ "." ++ name) with ⟨unknown, unknownToo⟩ |
        ⟨names, same, known, knownToo, typeName, fieldType, -⟩
      · rw [unknown, unknownToo]
        exact couples_fail
      · rw [known, knownToo]
        exact couples_pure (by rw [typeName, fieldType])

theorem couples_property {owner ns type : String} {isKey : Bool} {source : Schema.Property} :
    Couples leeway leeway.property (property language first complex owner ns type isKey source)
      (property language second others owner ns type isKey source) := by
  refine (couples_propertyType alike).bind_id fun typing => ?_
  refine couples_memberNames.bind_id fun names => couples_pure ?_
  simp only [Leeway.property, counterparts.describeProperty]

theorem couples_complexType {type : Schema.ComplexType} :
    Couples leeway leeway.complexType (complexType language first complex type)
      (complexType language second others type) := by
  unfold complexType
  rcases alike.get? type.qualifiedName with ⟨unknown, unknownToo⟩ |
    ⟨names, namesToo, known, knownToo, typeName, fieldType, factoryName⟩
  · rw [unknown, unknownToo]
    exact couples_fail
  · rw [known, knownToo]
    dsimp only
    rw [← typeName, ← fieldType]
    refine (couples_mapM fun source _ => couples_property counterparts alike).bind ?_
    intro properties another same
    refine couples_pure ?_
    simp only [Leeway.complexType, factoryName, counterparts.describeType, same]

omit alike in
theorem couples_navigationProperty {owner type : String}
    {navigation : Schema.NavigationProperty} :
    Couples leeway id (navigationProperty first owner type navigation)
      (navigationProperty second owner type navigation) := by
  have dropped {location reason : String} :
      Couples leeway id (dropNavigation location reason) (dropNavigation location reason) :=
    couples_report.bind_id fun _ => couples_pure rfl
  unfold navigationProperty
  rw [counterparts.navigationEnd?, counterparts.entitySetsOf]
  cases navigationEnd? first navigation with
  | none => exact dropped
  | some target =>
      dsimp only
      cases (first.schema.entitySetsOf target.type).head? with
      | none => exact dropped
      | some set =>
          refine Couples.bind_id (couples_nameOf? leeway.space_ne.1) fun found => ?_
          cases found with
          | none => exact dropped
          | some targetClass => exact couples_memberNames.bind_id fun _ => couples_pure rfl

theorem couples_entity {set : Schema.EntitySet} {type : Schema.EntityType} {className : String} :
    Couples leeway leeway.entity (entity language first complex set type className)
      (entity language second others set type className) := by
  refine couples_reserve.bind_id fun _ => ?_
  refine (couples_mapM fun source _ => couples_property counterparts alike).bind ?_
  intro properties another same
  refine (couples_mapM_id fun navigation _ =>
    couples_navigationProperty counterparts).bind_id fun navigation => couples_pure ?_
  have keys : ∀ properties : List Service.Property,
      (properties.filter (·.isKey)).map leeway.property =
        (properties.map leeway.property).filter (·.isKey) := by
    intro properties
    rw [List.filter_map]
    rfl
  simp only [Leeway.entity, counterparts.describeType, keys, same]

omit counterparts alike in
theorem couples_parameter {function : Schema.FunctionImport} {functionName : String}
    {source : Schema.Parameter} :
    Couples leeway id (parameter language function functionName source)
      (parameter language function functionName source) := by
  refine couples_typeReference.bind_id fun reference => ?_
  split
  · refine couples_primitive.bind_id fun _ => ?_
    exact Couples.bind_id (couples_name leeway.space_ne.2.2.2) fun _ => couples_pure rfl
  · exact couples_fail

theorem couples_result {function : Schema.FunctionImport} :
    Couples leeway leeway.result (result language first complex function)
      (result language second others function) := by
  unfold result
  rw [counterparts.findEntityType?, counterparts.resultSet?]
  cases function.returnType with
  | none => exact couples_pure rfl
  | some text =>
      refine couples_typeReference.bind_id fun reference => ?_
      dsimp only
      cases reference.element with
      | primitive name => exact couples_primitive.bind_id fun _ => couples_pure rfl
      | declared ns name =>
          dsimp only
          rcases alike.get? (ns ++ "." ++ name) with ⟨unknown, unknownToo⟩ |
            ⟨names, same, known, knownToo, typeName, -, factoryName⟩
          · rw [unknown, unknownToo]
            dsimp only
            split
            · exact couples_fail
            · cases resultSet? first function (ns ++ "." ++ name) with
              | none => exact couples_fail
              | some set =>
                  refine Couples.bind_id (couples_nameOf? leeway.space_ne.1) fun className => ?_
                  cases className with
                  | none => exact couples_fail
                  | some className => exact couples_pure rfl
          · rw [known, knownToo]
            exact couples_pure (by rw [Leeway.result, Leeway.result, typeName, factoryName])

theorem couples_functionImport {function : Schema.FunctionImport} {functionName : String} :
    Couples leeway leeway.functionImport
      (functionImport language first complex function functionName)
      (functionImport language second others function functionName) := by
  refine Couples.bind_id (couples_name leeway.space_ne.1) fun parametersTypeName => ?_
  refine (couples_mapM_id fun _ _ => couples_parameter).bind_id fun parameters => ?_
  refine (couples_result counterparts alike).bind fun result another same => couples_pure ?_
  simp only [Leeway.functionImport, same]

end Steps

end Model

end ODataClient
