import ODataClient.Proofs.Model.Whole

/-!
# Names of distinct constructs

In a model whose names come from a new registry, constructs that are called differently in the
schema are called differently as well: the members of one class, the parameters of one function, all
functions and factories, and all types. No type is called like one that the runtime needs.
-/

namespace ODataClient

namespace Service

/-- A property as a member of its class, behind the name that it has in the schema. -/
def Property.asMember (property : Property) : String × Build.MemberNames :=
  (property.originalName,
    { instanceName := property.instanceName
      staticName := property.staticName
      parameterName := property.parameterName })

/-- A navigation property as a member of its class. -/
def NavigationProperty.asMember (navigation : NavigationProperty) : String × Build.MemberNames :=
  (navigation.originalName,
    { instanceName := navigation.instanceName
      staticName := navigation.staticName
      parameterName := navigation.parameterName })

def Entity.members (entity : Entity) : List (String × Build.MemberNames) :=
  entity.properties.map (·.asMember) ++ entity.navigation.map (·.asMember)

theorem Entity.map_members {α : Type} {entity : Entity} (view : String × Build.MemberNames → α) :
    entity.members.map view = entity.properties.map (fun property => view property.asMember) ++
      entity.navigation.map fun navigation => view navigation.asMember := by
  rw [Entity.members, List.map_append, List.map_map, List.map_map]
  rfl

def ComplexType.members (type : ComplexType) : List (String × Build.MemberNames) :=
  type.properties.map (·.asMember)

variable (service : Service)

/-- The types that are named for the constructs of the schema, each behind the key that the registry
knows it by. -/
def namedTypes : List (String × String) :=
  service.entities.map (fun entity => (entity.entitySetName, entity.className)) ++
    service.complexTypes.map (fun type => (type.qualifiedName, type.typeName)) ++
    service.functionImports.map fun function =>
      (function.originalName ++ "()", function.parametersTypeName)

def constructKeys : List String := service.namedTypes.map Prod.fst

def typeNames : List String := service.namedTypes.map Prod.snd

def functionNames : List String := service.functionImports.map (·.functionName)

end Service

namespace Model

open Name (AreNamedApart)

/-- The members of a class are named apart, whatever they are named for. -/
structure HasDistinctMembers (members : List (String × Build.MemberNames)) : Prop where
  instanceNames : AreNamedApart members Prod.fst (·.2.instanceName)
  staticNames : AreNamedApart members Prod.fst (·.2.staticName)
  parameterNames : AreNamedApart members Prod.fst (·.2.parameterName)

/-- Distinct constructs of a service have distinct names. -/
structure HasDistinctNames (convention : NamingConvention) (service : Service) : Prop where
  entities : ∀ entity ∈ service.entities, HasDistinctMembers entity.members
  complexTypes : ∀ type ∈ service.complexTypes, HasDistinctMembers type.members
  parameters : ∀ function ∈ service.functionImports,
    AreNamedApart function.parameters (·.originalName) (·.parameterName)
  functions : AreNamedApart service.functionImports (·.originalName) (·.functionName)
  factories : AreNamedApart service.complexTypes (·.qualifiedName) (·.factoryName)
  callables : ∀ type ∈ service.complexTypes, type.factoryName ∉ service.functionNames
  types : AreNamedApart service.namedTypes Prod.fst Prod.snd
  runtime : service.typeNames.Disjoint convention.runtimeTypes

variable {language : TargetLanguage} {input : ModelInput} {complex : Dictionary ComplexNames}
  {registry : Name.Registry} {service : Service} {findings : List Diagnostic}
  {types : List Schema.ComplexType}

section Held

variable (model : IsModelOf language input types complex registry service findings)

include model

theorem lookup_className {entity : Service.Entity} (member : entity ∈ service.entities) :
    registry.lookup { kind := .type, owner := "", key := entity.entitySetName } =
      some entity.className := by
  obtain ⟨set, -, ⟨type, -, made⟩, held⟩ := model.entities.exists_of_mem_right member
  rw [made.entitySetName]
  exact held

theorem isNamesOf_of_mem {type : Service.ComplexType} (member : type ∈ service.complexTypes) :
    IsNamesOf language registry type.qualifiedName
      { typeName := type.typeName, factoryName := type.factoryName, fieldType := type.fieldType } := by
  obtain ⟨source, -, made⟩ := model.complexTypes.exists_of_mem_right member
  rw [made.qualifiedName]
  exact model.naming.names _ _ made.names

theorem lookup_parametersTypeName {function : Service.FunctionImport}
    (member : function ∈ service.functionImports) :
    registry.lookup { kind := .type, owner := "", key := function.originalName ++ "()" } =
      some function.parametersTypeName := by
  obtain ⟨source, -, made⟩ := model.functionImports.exists_of_mem_right member
  rw [made.originalName]
  exact made.parametersTypeName

theorem lookup_functionName {function : Service.FunctionImport}
    (member : function ∈ service.functionImports) :
    registry.lookup { kind := .function, owner := "", key := function.originalName } =
      some function.functionName := by
  obtain ⟨source, -, made⟩ := model.functionImports.exists_of_mem_right member
  rw [made.originalName]
  exact made.functionName

theorem lookup_parameterName {function : Service.FunctionImport} {parameter : Service.Parameter}
    (isFunction : function ∈ service.functionImports)
    (isParameter : parameter ∈ function.parameters) :
    registry.lookup
      { kind := .parameter, owner := function.functionName, key := parameter.originalName } =
        some parameter.parameterName := by
  obtain ⟨source, -, made⟩ := model.functionImports.exists_of_mem_right isFunction
  obtain ⟨source, -, madeParameter⟩ := made.parameters.exists_of_mem_right isParameter
  rw [madeParameter.originalName]
  exact madeParameter.parameterName

theorem lookup_namedTypes {named : String × String} (member : named ∈ service.namedTypes) :
    registry.lookup { kind := .type, owner := "", key := named.1 } = some named.2 := by
  rw [Service.namedTypes, List.mem_append, List.mem_append] at member
  rcases member with (inEntities | inComplexTypes) | inFunctions
  · obtain ⟨entity, isEntity, rfl⟩ := List.mem_map.1 inEntities
    exact lookup_className model isEntity
  · obtain ⟨type, isType, rfl⟩ := List.mem_map.1 inComplexTypes
    exact (isNamesOf_of_mem model isType).typeName
  · obtain ⟨function, isFunction, rfl⟩ := List.mem_map.1 inFunctions
    exact lookup_parametersTypeName model isFunction

theorem isMember_of_mem_entity {entity : Service.Entity} (isEntity : entity ∈ service.entities) :
    ∀ member ∈ entity.members, Build.IsMember registry entity.className member.1 member.2 := by
  obtain ⟨set, -, ⟨type, -, made⟩, -⟩ := model.entities.exists_of_mem_right isEntity
  intro member isMember
  rcases List.mem_append.1 isMember with inProperties | inNavigation
  · obtain ⟨property, isProperty, rfl⟩ := List.mem_map.1 inProperties
    obtain ⟨source, -, madeProperty⟩ := made.properties.exists_of_mem_right isProperty
    rw [Service.Property.asMember, madeProperty.originalName]
    exact madeProperty.names
  · obtain ⟨navigation, isNavigation, rfl⟩ := List.mem_map.1 inNavigation
    obtain ⟨source, -, madeNavigation⟩ := made.navigation.exists_of_mem_right isNavigation
    rw [Service.NavigationProperty.asMember, madeNavigation.originalName]
    exact madeNavigation.names

theorem isMember_of_mem_complexType {type : Service.ComplexType}
    (isType : type ∈ service.complexTypes) :
    ∀ member ∈ type.members, Build.IsMember registry type.typeName member.1 member.2 := by
  obtain ⟨source, -, made⟩ := model.complexTypes.exists_of_mem_right isType
  intro member isMember
  obtain ⟨property, isProperty, rfl⟩ := List.mem_map.1 isMember
  obtain ⟨source, -, madeProperty⟩ := made.properties.exists_of_mem_right isProperty
  rw [Service.Property.asMember, madeProperty.originalName]
  exact madeProperty.names

end Held

theorem hasDistinctMembers_of_isMember {owner : String}
    {members : List (String × Build.MemberNames)} (consistent : registry.Consistent)
    (held : ∀ member ∈ members, Build.IsMember registry owner member.1 member.2) :
    HasDistinctMembers members where
  instanceNames := consistent.areNamedApart fun member isMember =>
    (held member isMember).instanceName
  staticNames := consistent.areNamedApart fun member isMember => (held member isMember).staticName
  parameterNames := consistent.areNamedApart fun member isMember =>
    (held member isMember).parameterName

theorem hasDistinctNames_of_isModelOf {name : String} {convention : NamingConvention}
    (grows : (Name.Registry.empty name convention).Grows registry)
    (model : IsModelOf language input types complex registry service findings) :
    HasDistinctNames convention service := by
  have consistent := grows.consistent (Name.Registry.consistent_empty _ _)
  constructor
  · intro entity isEntity
    exact hasDistinctMembers_of_isMember consistent (isMember_of_mem_entity model isEntity)
  · intro type isType
    exact hasDistinctMembers_of_isMember consistent (isMember_of_mem_complexType model isType)
  · intro function isFunction
    exact consistent.areNamedApart fun parameter => lookup_parameterName model isFunction
  · exact consistent.areNamedApart fun function => lookup_functionName model
  · exact consistent.areNamedApart fun type isType => (isNamesOf_of_mem model isType).factoryName
  · intro type isType isFunctionName
    -- Factories and functions are named in one scope, as constructs of different kinds.
    obtain ⟨function, isFunction, same⟩ := List.mem_map.1 isFunctionName
    have heldFactory := (isNamesOf_of_mem model isType).factoryName
    have heldFunction := lookup_functionName model isFunction
    rw [same] at heldFunction
    have together : Name.Slot.scope { kind := .factory, owner := "", key := type.qualifiedName } =
        Name.Slot.scope { kind := .function, owner := "", key := function.originalName } :=
      rfl
    simpa using consistent.apart _ _ _ together heldFactory heldFunction
  · exact consistent.areNamedApart fun named => lookup_namedTypes model
  · intro name member needed
    obtain ⟨named, isNamed, rfl⟩ := List.mem_map.1 member
    have withheld := grows.withholds (Name.Registry.withholds_empty needed)
    exact withheld.unheld _ rfl (lookup_namedTypes model isNamed)

/-- Distinct constructs have distinct names in every model that is made with a new registry. -/
theorem hasDistinctNames_of_buildFrom {name : String} {convention : NamingConvention}
    (built : buildFrom language input (.empty name convention) = .ok (service, findings)) :
    HasDistinctNames convention service := by
  obtain ⟨last, grows, types, complex, model⟩ := isModelOf_of_buildFrom built
  exact hasDistinctNames_of_isModelOf grows model

/-- The metadata of a bazaar, in which nearly everything would like to have a name that something
else has. -/
def bazaar : ModelInput where
  schema :=
    { ns := "Bazaar"
      namespaces := ["Bazaar"]
      entityTypes := [
        { ns := "Bazaar", name := "Stall", keys := ["Some_Name"], label := none
          properties := [
            plainProperty "Some_Name" "Edm.String", plainProperty "SomeName" "Edm.String"]
          navigation := [
            { name := "someName", relationship := "Bazaar.Next"
              fromRole := "Left", toRole := "Right" }] }]
      complexTypes := [
        { ns := "Bazaar", name := "OpenParameters"
          properties := [plainProperty "Hour" "Edm.Int32"] }]
      associations := [
        { ns := "Bazaar", name := "Next"
          ends := [
            { type := "Bazaar.Stall", multiplicity := .one, role := "Left" },
            { type := "Bazaar.Stall", multiplicity := .one, role := "Right" }] }]
      entitySets := [{ name := "Link", type := "Bazaar.Stall", label := none }]
      functionImports := [
        { name := "Open", returnType := none, entitySet := none, httpMethod := "POST"
          label := none
          parameters := [
            { name := "Limit", type := "Edm.Int32", nullable := none, maxLength := none
              mode := none, label := none },
            { name := "limit", type := "Edm.Int32", nullable := none, maxLength := none
              mode := none, label := none }] },
        { name := "CreateOpenParameters", returnType := none, entitySet := none
          httpMethod := "POST", label := none, parameters := [] }] }
  fileName := "Bazaar"
  mapping := none
  swagger := none

theorem orderedComplexTypes_bazaar :
    orderedComplexTypes bazaar.schema = .ok bazaar.schema.complexTypes :=
  orderedComplexTypes_of_leaf rfl (by decide +kernel)

theorem hasDistinctNames_bazaar : ∃ service findings,
    buildFrom TypeScript.language bazaar (.empty "Bazaar" TypeScript.naming) =
        .ok (service, findings) ∧
      service.typeNames =
        ["Link_1", "OpenParameters", "OpenParameters_1", "CreateOpenParametersParameters"] ∧
      service.entities.map (·.members.map (·.2.instanceName)) =
        [["someName", "someName_1", "someName_2"]] ∧
      HasDistinctNames TypeScript.naming service := by
  have outline : (buildFrom TypeScript.language bazaar
      (.empty "Bazaar" TypeScript.naming)).toOption.map (fun made =>
        (made.1.typeNames, made.1.entities.map (·.members.map (·.2.instanceName)))) =
          some (["Link_1", "OpenParameters", "OpenParameters_1", "CreateOpenParametersParameters"],
            [["someName", "someName_1", "someName_2"]]) := by
    simp only [buildFrom, Model.service, orderedComplexTypes_bazaar]
    decide +kernel
  obtain ⟨⟨service, findings⟩, built, seen⟩ := Outcome.exists_of_toOption outline
  obtain ⟨typeNames, instanceNames⟩ := Prod.mk.inj seen
  exact ⟨service, findings, built, typeNames, instanceNames, hasDistinctNames_of_buildFrom built⟩

end Model

end ODataClient
