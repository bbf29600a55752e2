import ODataClient.Proofs.Model.Whole

/-!
# References within a model

A model that is made without an error is closed: its navigation properties lead to entities of the
model, its properties are of primitive types or of complex types of the model, and its function
imports give back values of such types or entities of the model. Complex types can be written down
one after the other, since each is made only of those before it.
-/

namespace ODataClient.Model

variable {language : TargetLanguage} {input : ModelInput} {complex : Dictionary ComplexNames}
  {registry : Name.Registry} {service : Service} {findings : List Diagnostic}
  {types : List Schema.ComplexType} {complexTypes : List Service.ComplexType}

/-- An entity of a model that is made from an entity set. -/
def Represents (input : ModelInput) (service : Service) (set : Schema.EntitySet)
    (entity : Service.Entity) : Prop :=
  (set, entity) ∈ input.schema.entitySets.zip service.entities

/-- A navigation property, made from one of the schema, that leads to an entity of the model: the
entity of a set which holds the entities at the end of the association. -/
structure LeadsTo (input : ModelInput) (service : Service) (source : Schema.NavigationProperty)
    (navigation : Service.NavigationProperty) (target : Schema.AssociationEnd)
    (set : Schema.EntitySet) (entity : Service.Entity) : Prop where
  originalName : navigation.originalName = source.name
  found : navigationEnd? input source = some target
  cardinality : navigation.cardinality = .many ↔ target.multiplicity = .many
  represents : Represents input service set entity
  type : set.type = target.type
  targetClass : navigation.targetClass = entity.className
  targetSet : navigation.targetSet = entity.entitySetName
  setName : navigation.targetSet = set.name
  onlySet : (input.schema.entitySets.map (·.name)).Nodup →
    input.schema.findEntitySet? navigation.targetSet = some set

/-- A property whose type is known: a complex type from the given list, as its name, its values and
its field say, or else a primitive. -/
structure IsOfKnownType (complexTypes : List Service.ComplexType) (property : Service.Property) :
    Prop where
  complex : property.isComplex = true → ∃ type ∈ complexTypes,
    type.qualifiedName = property.edmType ∧ type.typeName = property.targetType ∧
      type.fieldType = property.fieldType
  primitive : property.isComplex = false → ∃ type : EdmType, type.name = property.edmType

/-- A result, made from the reference of a function import, whose type is known. -/
inductive IsKnownResult (input : ModelInput) (service : Service)
    (source : Schema.FunctionImport) : Service.Result → Prop
  | void (nothing : source.returnType = none) : IsKnownResult input service source .void
  | primitive {text targetType builderFunction : String} {reference : TypeReference}
      {type : EdmType} (returned : source.returnType = some text)
      (parsed : TypeReference.parse text = .ok reference)
      (element : reference.element = .primitive type.name) :
      IsKnownResult input service source
        (.primitive type.name targetType builderFunction reference.isCollection)
  | complex {text builderFunction : String} {reference : TypeReference}
      {type : Service.ComplexType} (returned : source.returnType = some text)
      (parsed : TypeReference.parse text = .ok reference)
      (member : type ∈ service.complexTypes)
      (named : reference.qualifiedName? = some type.qualifiedName) :
      IsKnownResult input service source
        (.complex type.typeName type.factoryName builderFunction reference.isCollection)
  | entity {text : String} {reference : TypeReference} {set : Schema.EntitySet}
      {entity : Service.Entity} (returned : source.returnType = some text)
      (parsed : TypeReference.parse text = .ok reference)
      (represents : Represents input service set entity)
      (named : reference.qualifiedName? = some set.type) :
      IsKnownResult input service source (.entity entity.className reference.isCollection)

/-- Everything that a model refers to is part of it. -/
structure IsClosed (input : ModelInput) (service : Service) : Prop where
  navigation : List.Forall₂ (fun set entity => ∃ type sources,
      input.schema.findEntityType? set.type = some type ∧
        List.Sublist sources type.navigation ∧
        List.Forall₂ (fun source navigation => ∃ target targetSet targetEntity,
          LeadsTo input service source navigation target targetSet targetEntity)
          sources entity.navigation)
    input.schema.entitySets service.entities
  entityProperties : ∀ entity ∈ service.entities, ∀ property ∈ entity.properties,
    IsOfKnownType service.complexTypes property
  keys : ∀ entity ∈ service.entities, entity.keys ⊆ entity.properties
  distinct : (service.complexTypes.map (·.qualifiedName)).Nodup
  complexProperties : ∀ before type after, service.complexTypes = before ++ type :: after →
    ∀ property ∈ type.properties, IsOfKnownType before property
  results : List.Forall₂ (fun source function => IsKnownResult input service source function.result)
    input.schema.functionImports service.functionImports

theorem exists_represents {set : Schema.EntitySet}
    (model : IsModelOf language input types complex registry service findings)
    (declared : set ∈ input.schema.entitySets) :
    ∃ entity, Represents input service set entity ∧
      IsEntityOfSet language input complex registry set entity := by
  obtain ⟨entity, represents⟩ := model.entities.exists_mem_zip_left declared
  exact ⟨entity, represents, List.forall₂_zip model.entities represents⟩

/-- Where keys are different, an item is found under its own. -/
theorem find?_key_eq_some {α : Type} {items : List α} {keyOf : α → String} {item : α}
    (distinct : (items.map keyOf).Nodup) (member : item ∈ items) :
    items.find? (fun other => keyOf other = keyOf item) = some item := by
  have isFound : (items.find? fun other => keyOf other = keyOf item).isSome :=
    List.find?_isSome.2 ⟨item, member, by simp⟩
  obtain ⟨other, found⟩ := Option.isSome_iff_exists.1 isFound
  have sameKey : keyOf other = keyOf item := by simpa using List.find?_some found
  have same := List.inj_on_of_nodup_map distinct (List.mem_of_find?_eq_some found) member sameKey
  rw [found, same]

theorem leadsTo_of_isNavigationOf {owner : String} {source : Schema.NavigationProperty}
    {navigation : Service.NavigationProperty}
    (model : IsModelOf language input types complex registry service findings)
    (isNavigation : IsNavigationOf input registry owner source navigation) :
    ∃ target set entity, LeadsTo input service source navigation target set entity := by
  obtain ⟨target, set, found, first, cardinality, name, held⟩ := isNavigation.target
  obtain ⟨declared, type⟩ := List.mem_filter.1 (List.mem_of_head? first)
  obtain ⟨entity, represents, isEntity⟩ := exists_represents model declared
  obtain ⟨entityType, -, made⟩ := isEntity.type
  have sameClass : navigation.targetClass = entity.className :=
    Option.some.inj (held.symm.trans isEntity.className)
  refine ⟨target, set, entity, isNavigation.originalName, found, ?_, represents, ?_, sameClass, ?_,
    name, ?_⟩
  · rw [cardinality]
    cases target.multiplicity <;> decide
  · simpa using type
  · rw [name, made.entitySetName]
  · intro distinct
    rw [name]
    exact find?_key_eq_some distinct declared

theorem exists_name_of_primitive {name : String} {mapping : PrimitiveMapping}
    (known : language.primitive name = .ok mapping) : ∃ type : EdmType, type.name = name := by
  unfold TargetLanguage.primitive EdmType.ofName at known
  split at known
  · next type found => exact ⟨type, by simpa using List.find?_some found⟩
  · contradiction

/-- The names kept for a complex type are those of its part of the model. -/
theorem exists_complexType {qualifiedName : String} {names : ComplexNames}
    (matched : List.Forall₂ (IsComplexTypeOf language complex registry) types complexTypes)
    (named : complex.get? qualifiedName = some names)
    (present : qualifiedName ∈ types.map (·.qualifiedName)) :
    ∃ type ∈ complexTypes, type.qualifiedName = qualifiedName ∧ type.typeName = names.typeName ∧
      type.factoryName = names.factoryName ∧ type.fieldType = names.fieldType := by
  obtain ⟨source, member, rfl⟩ := List.mem_map.1 present
  obtain ⟨type, paired⟩ := matched.exists_mem_zip_left member
  have isType := List.forall₂_zip matched paired
  have same := Option.some.inj (isType.names.symm.trans named)
  refine ⟨type, (List.of_mem_zip paired).2, isType.qualifiedName, ?_⟩
  rw [← same]
  exact ⟨rfl, rfl, rfl⟩

/-- What a property is typed as is known, if the names of complex types are those of the types
made. -/
theorem known_of_isTyped {element : ElementType} {typing : PropertyType}
    (matched : List.Forall₂ (IsComplexTypeOf language complex registry) types complexTypes)
    (present : ∀ dependency, element.qualifiedName? = some dependency →
      dependency ∈ complex.map Prod.fst → dependency ∈ types.map (·.qualifiedName))
    (typed : IsTyped language complex element typing) :
    (typing.isComplex = true → ∃ type ∈ complexTypes, type.qualifiedName = typing.edmType ∧
        type.typeName = typing.targetType ∧ type.fieldType = typing.fieldType) ∧
      (typing.isComplex = false → ∃ type : EdmType, type.name = typing.edmType) := by
  cases typed with
  | primitive known =>
      refine ⟨?_, fun _ => exists_name_of_primitive known⟩
      intro isComplex
      contradiction
  | declared named =>
      refine ⟨fun _ => ?_, ?_⟩
      · have isName := present _ rfl (Dictionary.mem_keys_of_get? named)
        obtain ⟨type, member, qualifiedName, typeName, -, fieldType⟩ :=
          exists_complexType matched named isName
        exact ⟨type, member, qualifiedName, typeName, fieldType⟩
      · intro notComplex
        contradiction

/-- The properties made from those of the schema are of known types. -/
theorem isOfKnownType_of_forall₂ {owner : String} {isKey : Schema.Property → Bool}
    {sources : List Schema.Property} {properties : List Service.Property}
    (matched : List.Forall₂ (IsComplexTypeOf language complex registry) types complexTypes)
    (present : ∀ source ∈ sources, ∀ reference dependency,
      TypeReference.parse source.type = .ok reference →
      reference.qualifiedName? = some dependency → dependency ∈ complex.map Prod.fst →
      dependency ∈ types.map (·.qualifiedName))
    (made : List.Forall₂ (fun source =>
      IsPropertyOf language complex registry owner (isKey source) source) sources properties) :
    ∀ property ∈ properties, IsOfKnownType complexTypes property := by
  intro property member
  obtain ⟨source, paired⟩ := made.exists_mem_zip_right member
  have isProperty := List.forall₂_zip made paired
  obtain ⟨reference, parsed, typed⟩ := isProperty.typing
  have known := known_of_isTyped matched
    (present source (List.of_mem_zip paired).1 reference · parsed) typed
  exact ⟨known.1, known.2⟩

theorem mem_map_qualifiedName
    (model : IsModelOf language input types complex registry service findings)
    {qualifiedName : String} (named : qualifiedName ∈ complex.map Prod.fst) :
    qualifiedName ∈ types.map (·.qualifiedName) := by
  obtain ⟨type, declared, rfl⟩ := List.mem_map.1 ((model.naming.keys _).1 named)
  exact model.ordered.complete type declared

theorem isKnownResult_of_isResultOf {source : Schema.FunctionImport} {result : Service.Result}
    (model : IsModelOf language input types complex registry service findings)
    (isResult : IsResultOf language input complex registry source result) :
    IsKnownResult input service source result := by
  cases isResult with
  | void nothing => exact .void nothing
  | primitive returned parsed element known =>
      obtain ⟨type, rfl⟩ := exists_name_of_primitive known
      exact .primitive returned parsed element
  | @complex text ns name reference names returned parsed element named =>
      have isName := mem_map_qualifiedName model (Dictionary.mem_keys_of_get? named)
      obtain ⟨type, member, qualifiedName, typeName, factoryName, -⟩ :=
        exists_complexType model.complexTypes named isName
      rw [← typeName, ← factoryName]
      refine .complex returned parsed member ?_
      rw [TypeReference.qualifiedName?, element, qualifiedName]
      rfl
  | @entity text ns name className reference set returned parsed element chosen held =>
      obtain ⟨declared, type⟩ := mem_entitySets_of_resultSet? chosen
      obtain ⟨entity, represents, isEntity⟩ := exists_represents model declared
      obtain rfl : className = entity.className :=
        Option.some.inj (held.symm.trans isEntity.className)
      refine .entity returned parsed represents ?_
      rw [TypeReference.qualifiedName?, element, type]
      rfl

theorem isClosed_of_isModelOf
    (model : IsModelOf language input types complex registry service findings) :
    IsClosed input service := by
  have names : types.map (·.qualifiedName) = service.complexTypes.map (·.qualifiedName) :=
    model.complexTypes.map_eq_map fun _ _ isType => isType.qualifiedName.symm
  constructor
  · refine model.entities.imp ?_
    rintro set entity ⟨⟨type, found, isEntity⟩, -⟩
    refine ⟨type, type.navigation.filter (isKept input), found, List.filter_sublist, ?_⟩
    exact isEntity.navigation.imp fun _ _ navigation => leadsTo_of_isNavigationOf model navigation
  · intro entity member
    obtain ⟨set, represents⟩ := model.entities.exists_mem_zip_right member
    obtain ⟨⟨type, -, isEntity⟩, -⟩ := List.forall₂_zip model.entities represents
    exact isOfKnownType_of_forall₂ model.complexTypes
      (fun _ _ _ _ _ _ named => mem_map_qualifiedName model named) isEntity.properties
  · intro entity member
    obtain ⟨set, represents⟩ := model.entities.exists_mem_zip_right member
    obtain ⟨⟨type, -, isEntity⟩, -⟩ := List.forall₂_zip model.entities represents
    rw [isEntity.keys]
    exact List.filter_sublist.subset
  · rw [← names]
    exact model.ordered.distinct
  · intro before type after split
    have matched := model.complexTypes
    rw [split] at matched
    obtain ⟨earlier, source, later, order, matched, isType⟩ := matched.of_append_cons
    refine isOfKnownType_of_forall₂ matched ?_ isType.properties
    intro property member reference dependency parsed named isName
    exact model.ordered.dependencies earlier source later order property member reference
      dependency parsed named ((model.naming.keys dependency).1 isName)
  · exact model.functionImports.imp fun _ _ isFunction =>
      isKnownResult_of_isResultOf model isFunction.result

end ODataClient.Model
