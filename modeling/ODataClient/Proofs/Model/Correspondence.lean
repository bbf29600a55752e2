import ODataClient.Proofs.Model.Whole

/-!
# Models mirror their schemas

A model has the entity sets, function imports, complex types, properties and parameters of its
schema, each once and in the same order, except for complex types, which may change places. Of the
navigation properties some are left out. The findings are about these and nothing else, each at its
turn.
-/

namespace ODataClient.Model

variable {language : TargetLanguage} {input : ModelInput} {complex : Dictionary ComplexNames}
  {registry : Name.Registry} {service : Service} {findings : List Diagnostic}

/-- A property that stands for one of the schema. -/
structure MirrorsProperty (source : Schema.Property) (property : Service.Property) : Prop where
  originalName : property.originalName = source.name
  type : ∃ reference, TypeReference.parse source.type = .ok reference ∧
    property.edmType = reference.element.text
  maxLength : property.maxLength = source.maxLength
  precision : property.precision = source.precision
  scale : property.scale = source.scale

/-- A complex type that stands for one of the schema. -/
structure MirrorsComplexType (source : Schema.ComplexType) (type : Service.ComplexType) :
    Prop where
  originalName : type.originalName = source.name
  qualifiedName : type.qualifiedName = source.qualifiedName
  properties : List.Forall₂ MirrorsProperty source.properties type.properties

/-- A parameter that stands for one of the schema. -/
structure MirrorsParameter (source : Schema.Parameter) (parameter : Service.Parameter) :
    Prop where
  originalName : parameter.originalName = source.name
  type : TypeReference.parse source.type = .ok (.single (.primitive parameter.edmType))

/-- A function import that stands for one of the schema. -/
structure MirrorsFunctionImport (source : Schema.FunctionImport)
    (function : Service.FunctionImport) : Prop where
  originalName : function.originalName = source.name
  httpMethod : function.httpMethod = source.httpMethod
  parameters : List.Forall₂ MirrorsParameter source.parameters function.parameters

/-- The navigation properties of a type that are made. -/
def kept (input : ModelInput) (type : Schema.EntityType) : List Schema.NavigationProperty :=
  type.navigation.filter (isKept input)

/-- The navigation properties of a type that are left out. -/
def leftOut (input : ModelInput) (type : Schema.EntityType) : List Schema.NavigationProperty :=
  type.navigation.filter fun navigation => !isKept input navigation

/-- An entity of a type that stands for an entity set. -/
structure MirrorsEntity (input : ModelInput) (set : Schema.EntitySet) (type : Schema.EntityType)
    (entity : Service.Entity) : Prop where
  entitySetName : entity.entitySetName = set.name
  entityTypeName : entity.entityTypeName = type.name
  properties : List.Forall₂ MirrorsProperty type.properties entity.properties
  keys : entity.keys =
    entity.properties.filter fun property => type.keys.contains property.originalName
  keysNotNull : ∀ key ∈ entity.keys, key.nullable = false
  navigation : List.Forall₂ (fun (source : Schema.NavigationProperty)
      (navigation : Service.NavigationProperty) => navigation.originalName = source.name)
    (kept input type) entity.navigation

/-- A model and its findings that tell everything about a schema. -/
structure Mirrors (input : ModelInput) (service : Service) (findings : List Diagnostic) : Prop where
  entities : List.Forall₂ (fun set entity => ∃ type,
      input.schema.findEntityType? set.type = some type ∧ MirrorsEntity input set type entity)
    input.schema.entitySets service.entities
  functionImports : List.Forall₂ MirrorsFunctionImport
    input.schema.functionImports service.functionImports
  complexTypes : ∃ order, order.Perm input.schema.complexTypes ∧
    List.Forall₂ MirrorsComplexType order service.complexTypes
  warnings : ∀ finding ∈ findings, finding.severity = .warning
  locations : findings.map (·.location) = input.schema.entitySets.flatMap fun set =>
    (input.schema.findEntityType? set.type).toList.flatMap fun type =>
      (leftOut input type).map fun navigation => some (type.name ++ "." ++ navigation.name)

/-- Each navigation property that is left out gives one finding, which is about it. -/
theorem map_location_dropFindings (type : Schema.EntityType) :
    (dropFindings input type).map (·.location) =
      (leftOut input type).map fun navigation => some (type.name ++ "." ++ navigation.name) := by
  unfold dropFindings leftOut
  induction type.navigation with
  | nil => rfl
  | cons navigation rest ih =>
      cases because : dropReason? input navigation with
      | none =>
          have leads : isKept input navigation = true := by rw [isKept, because]; rfl
          simpa [because, leads] using ih
      | some reason =>
          have dropped : isKept input navigation = false := by rw [isKept, because]; rfl
          have first : (dropFinding type.name navigation reason).location =
            some (type.name ++ "." ++ navigation.name) := rfl
          simpa [because, dropped, first] using ih

theorem severity_of_mem_dropFindings {type : Schema.EntityType} {finding : Diagnostic}
    (member : finding ∈ dropFindings input type) : finding.severity = .warning := by
  obtain ⟨navigation, -, made⟩ := List.mem_filterMap.1 member
  obtain ⟨reason, -, rfl⟩ := Option.map_eq_some_iff.1 made
  rfl

theorem severity_of_mem_findings {types : List Schema.ComplexType} {finding : Diagnostic}
    (model : IsModelOf language input types complex registry service findings)
    (member : finding ∈ findings) : finding.severity = .warning := by
  rw [model.findings] at member
  obtain ⟨set, -, member⟩ := List.mem_flatMap.1 member
  obtain ⟨type, -, member⟩ := List.mem_flatMap.1 member
  exact severity_of_mem_dropFindings member

theorem mirrorsProperty_of_isPropertyOf {owner : String} {isKey : Bool}
    {source : Schema.Property} {property : Service.Property}
    (isProperty : IsPropertyOf language complex registry owner isKey source property) :
    MirrorsProperty source property := by
  refine ⟨isProperty.originalName, ?_, isProperty.maxLength, isProperty.precision,
    isProperty.scale⟩
  obtain ⟨reference, parsed, typed⟩ := isProperty.typing
  exact ⟨reference, parsed, typed.edmType⟩

theorem mirrorsComplexType_of_isComplexTypeOf {source : Schema.ComplexType}
    {type : Service.ComplexType} (isType : IsComplexTypeOf language complex registry source type) :
    MirrorsComplexType source type where
  originalName := isType.originalName
  qualifiedName := isType.qualifiedName
  properties := isType.properties.imp fun _ _ property => mirrorsProperty_of_isPropertyOf property

theorem mirrorsFunctionImport_of_isFunctionImportOf {source : Schema.FunctionImport}
    {function : Service.FunctionImport}
    (isFunction : IsFunctionImportOf language input complex registry source function) :
    MirrorsFunctionImport source function where
  originalName := isFunction.originalName
  httpMethod := isFunction.httpMethod
  parameters := isFunction.parameters.imp fun _ _ parameter =>
    ⟨parameter.originalName, parameter.type⟩

theorem mirrorsEntity_of_isEntityOf {set : Schema.EntitySet} {type : Schema.EntityType}
    {entity : Service.Entity}
    (isEntity : IsEntityOf language input complex registry set type entity) :
    MirrorsEntity input set type entity := by
  have isKey : ∀ property ∈ entity.properties,
      property.isKey = type.keys.contains property.originalName ∧
        (property.isKey = true → property.nullable = false) := by
    intro property member
    obtain ⟨source, paired⟩ := isEntity.properties.exists_mem_zip_right member
    have isProperty := List.forall₂_zip isEntity.properties paired
    constructor
    · rw [isProperty.isKey, isProperty.originalName, Schema.EntityType.isKey]
    · intro isTrue
      rw [isProperty.nullable, ← isProperty.isKey, isTrue]
      rfl
  constructor
  · exact isEntity.entitySetName
  · exact isEntity.entityTypeName
  · exact isEntity.properties.imp fun _ _ property => mirrorsProperty_of_isPropertyOf property
  · rw [isEntity.keys]
    exact List.filter_congr fun property member => (isKey property member).1
  · intro key member
    rw [isEntity.keys] at member
    obtain ⟨member, isTrue⟩ := List.mem_filter.1 member
    exact (isKey key member).2 isTrue
  · exact isEntity.navigation.imp fun _ _ navigation => navigation.originalName

/-- Nothing is lost, doubled or put in another order, and whatever is left out is reported. -/
theorem mirrors_of_buildFrom
    (distinct : (input.schema.complexTypes.map (·.qualifiedName)).Nodup)
    (built : buildFrom language input registry = .ok (service, findings)) :
    Mirrors input service findings := by
  obtain ⟨last, -, types, complex, model⟩ := isModelOf_of_buildFrom built
  constructor
  · exact model.entities.imp fun set entity ⟨⟨type, found, isEntity⟩, _⟩ =>
      ⟨type, found, mirrorsEntity_of_isEntityOf isEntity⟩
  · exact model.functionImports.imp fun _ _ isFunction =>
      mirrorsFunctionImport_of_isFunctionImportOf isFunction
  · exact ⟨types, model.ordered.perm distinct, model.complexTypes.imp fun _ _ isType =>
      mirrorsComplexType_of_isComplexTypeOf isType⟩
  · exact fun finding => severity_of_mem_findings model
  · simp only [model.findings, List.map_flatMap, map_location_dropFindings]

theorem mirrors_shop : (shop.schema.complexTypes.map (·.qualifiedName)).Nodup ∧
    ∃ service findings,
      buildFrom TypeScript.language shop (Name.Registry.empty "Shop" TypeScript.naming) =
          .ok (service, findings) ∧
        Mirrors shop service findings := by
  have distinct : (shop.schema.complexTypes.map (·.qualifiedName)).Nodup := by decide
  obtain ⟨service, findings, built, -⟩ := build_shop
  exact ⟨distinct, service, findings, built, mirrors_of_buildFrom distinct built⟩

end ODataClient.Model
