import ODataClient.Model.Service
import ODataClient.Proofs.Dictionary
import ODataClient.Proofs.Model.Steps

/-!
# Classes, complex types and their properties

What the classes of entity sets, the names of complex types, the properties and the complex types of
a model have to do with the constructs of the schema that they are made from, with the names that
have been handed out, and with the names chosen for complex types. The step that makes one of them
gives one for which this holds, keeps the names handed out before and reports nothing.
-/

namespace ODataClient.Model

open Build

variable {language : TargetLanguage} {input : ModelInput} {complex : Dictionary ComplexNames}
  {registry earlier later : Name.Registry} {start stop : BuildState}

/-- The construct whose name is the class of an entity set. -/
def classSlot (set : Schema.EntitySet) : Name.Slot :=
  { kind := .type, owner := "", key := set.name }

/-- An entity set of a declared type with the class that it holds. -/
structure IsClassOf (schema : Schema) (registry : Name.Registry) (set : Schema.EntitySet)
    (entry : Schema.EntitySet × Schema.EntityType × String) : Prop where
  type : schema.findEntityType? set.type = some entry.2.1
  self : entry.1 = set
  className : registry.lookup (classSlot set) = some entry.2.2

theorem IsClassOf.mono {schema : Schema} {set : Schema.EntitySet}
    {entry : Schema.EntitySet × Schema.EntityType × String} (grows : earlier.Extends later)
    (isClass : IsClassOf schema earlier set entry) : IsClassOf schema later set entry :=
  { isClass with className := grows.lookup _ _ isClass.className }

theorem advances_entityClasses
    {classes : List (Schema.EntitySet × Schema.EntityType × String)}
    (ran : (entityClasses input).run start = .ok (classes, stop)) :
    start.Advances stop [] ∧
      List.Forall₂ (IsClassOf input.schema stop.registry) input.schema.entitySets classes := by
  refine advances_mapM_quiet (IsClassOf input.schema)
    (fun _ _ _ _ grows isClass => isClass.mono grows) ?_ ran
  intro set _ before after entry _ ran
  cases found : input.schema.findEntityType? set.type with
  | none =>
      simp only [found] at ran
      exact (run_fail_ne_ok ran).elim
  | some type =>
      simp only [found] at ran
      obtain ⟨className, named, ranName, ran⟩ := run_bind_eq_ok.1 ran
      obtain ⟨rfl, rfl⟩ := run_pure_eq_ok.1 ran
      obtain ⟨advances, held⟩ := advances_name (.inl rfl) ranName
      exact ⟨advances, found, rfl, held⟩

/-- The names that the complex type with a qualified name holds. -/
structure IsNamesOf (language : TargetLanguage) (registry : Name.Registry)
    (qualifiedName : String) (names : ComplexNames) : Prop where
  typeName :
    registry.lookup { kind := .type, owner := "", key := qualifiedName } = some names.typeName
  factoryName :
    registry.lookup { kind := .factory, owner := "", key := qualifiedName } =
      some names.factoryName
  fieldType : names.fieldType = language.complexFieldType names.typeName

theorem IsNamesOf.mono {qualifiedName : String} {names : ComplexNames}
    (grows : earlier.Extends later) (held : IsNamesOf language earlier qualifiedName names) :
    IsNamesOf language later qualifiedName names where
  typeName := grows.lookup _ _ held.typeName
  factoryName := grows.lookup _ _ held.factoryName
  fieldType := held.fieldType

/-- The names chosen for the complex types of a schema. -/
structure IsNaming (language : TargetLanguage) (schema : Schema) (registry : Name.Registry)
    (complex : Dictionary ComplexNames) : Prop where
  keys : ∀ qualifiedName, qualifiedName ∈ complex.map Prod.fst ↔
    qualifiedName ∈ schema.complexTypes.map (·.qualifiedName)
  names : ∀ qualifiedName names, complex.get? qualifiedName = some names →
    IsNamesOf language registry qualifiedName names

theorem IsNaming.mono {schema : Schema} (grows : earlier.Extends later)
    (naming : IsNaming language schema earlier complex) :
    IsNaming language schema later complex where
  keys := naming.keys
  names qualifiedName names found := (naming.names qualifiedName names found).mono grows

theorem advances_complexNames
    (ran : (complexNames language input).run start = .ok (complex, stop)) :
    start.Advances stop [] ∧ IsNaming language input.schema stop.registry complex := by
  obtain ⟨entries, last, ranEntries, ran⟩ := run_bind_eq_ok.1 ran
  obtain ⟨rfl, rfl⟩ := run_pure_eq_ok.1 ran
  have steps := advances_mapM_quiet
    (fun registry (type : Schema.ComplexType) (entry : String × ComplexNames) =>
      entry.1 = type.qualifiedName ∧ IsNamesOf language registry type.qualifiedName entry.2)
    (fun _ _ _ _ grows made => ⟨made.1, made.2.mono grows⟩) ?_ ranEntries
  · obtain ⟨advances, made⟩ := steps
    refine ⟨advances, fun qualifiedName => ?_, fun qualifiedName names found => ?_⟩
    · rw [Dictionary.mem_keys_ofEntries, made.map_eq_map fun _ _ entry => entry.1.symm]
    · have member := Dictionary.mem_of_mem_ofEntries (Dictionary.mem_of_get? found)
      obtain ⟨type, paired⟩ := made.exists_mem_zip_right member
      obtain ⟨same, held⟩ := List.forall₂_zip made paired
      cases same
      exact held
  · intro type _ before after entry _ ran
    obtain ⟨typeName, first, ranType, ran⟩ := run_bind_eq_ok.1 ran
    obtain ⟨factoryName, second, ranFactory, ran⟩ := run_bind_eq_ok.1 ran
    obtain ⟨rfl, rfl⟩ := run_pure_eq_ok.1 ran
    obtain ⟨toFirst, heldType⟩ := advances_name (.inl rfl) ranType
    obtain ⟨toSecond, heldFactory⟩ := advances_name (.inl rfl) ranFactory
    exact ⟨toSecond.after_quiet toFirst, rfl, toSecond.registry.lookup _ _ heldType,
      heldFactory, rfl⟩

/-- How a property of an element type is typed. -/
inductive IsTyped (language : TargetLanguage) (complex : Dictionary ComplexNames) :
    ElementType → PropertyType → Prop
  | primitive {name : String} {mapping : PrimitiveMapping}
      (known : language.primitive name = .ok mapping) :
      IsTyped language complex (.primitive name)
        { edmType := name
          targetType := mapping.targetType
          fieldType := mapping.fieldType
          isComplex := false }
  | declared {ns name : String} {names : ComplexNames}
      (named : complex.get? (ns ++ "." ++ name) = some names) :
      IsTyped language complex (.declared ns name)
        { edmType := ns ++ "." ++ name
          targetType := names.typeName
          fieldType := names.fieldType
          isComplex := true }

theorem IsTyped.edmType {element : ElementType} {typing : PropertyType}
    (typed : IsTyped language complex element typing) : typing.edmType = element.text := by
  cases typed with
  | primitive known => rfl
  | declared named => rfl

theorem IsTyped.exists_fieldType {element : ElementType} {typing : PropertyType}
    (typed : IsTyped language complex element typing) (primitive : typing.isComplex = false) :
    ∃ type : EdmType, typing.fieldType = language.fieldType type := by
  cases typed with
  | primitive known =>
      obtain ⟨type, -, mapped⟩ := Outcome.bind_eq_ok_iff.1 known
      cases mapped
      exact ⟨type, rfl⟩
  | declared named => contradiction

theorem isTyped_of_propertyType {owner : String} {source : Schema.Property}
    {typing : PropertyType}
    (ran : (propertyType language complex owner source).run start = .ok (typing, stop)) :
    start = stop ∧ ∃ reference, TypeReference.parse source.type = .ok reference ∧
      IsTyped language complex reference.element typing := by
  obtain ⟨reference, middle, ranParse, ran⟩ := run_bind_eq_ok.1 ran
  obtain ⟨parsed, rfl⟩ := run_typeReference_eq_ok.1 ranParse
  cases element : reference.element with
  | primitive name =>
      simp only [element] at ran
      obtain ⟨mapping, last, ranPrimitive, ran⟩ := run_bind_eq_ok.1 ran
      obtain ⟨known, rfl⟩ := run_primitive_eq_ok.1 ranPrimitive
      obtain ⟨rfl, rfl⟩ := run_pure_eq_ok.1 ran
      exact ⟨rfl, reference, parsed, element ▸ .primitive known⟩
  | declared ns name =>
      simp only [element] at ran
      cases named : complex.get? (ns ++ "." ++ name) with
      | none =>
          simp only [named] at ran
          exact (run_fail_ne_ok ran).elim
      | some names =>
          simp only [named] at ran
          obtain ⟨rfl, rfl⟩ := run_pure_eq_ok.1 ran
          exact ⟨rfl, reference, parsed, element ▸ .declared named⟩

/-- A property of the class `owner` with the property of the schema that it is made from. -/
structure IsPropertyOf (language : TargetLanguage) (complex : Dictionary ComplexNames)
    (registry : Name.Registry) (owner : String) (isKey : Bool) (source : Schema.Property)
    (made : Service.Property) : Prop where
  originalName : made.originalName = source.name
  nullable : made.nullable = (!isKey && source.nullable.getD true)
  isKey : made.isKey = isKey
  maxLength : made.maxLength = source.maxLength
  precision : made.precision = source.precision
  scale : made.scale = source.scale
  typing : ∃ reference, TypeReference.parse source.type = .ok reference ∧
    IsTyped language complex reference.element
      { edmType := made.edmType
        targetType := made.targetType
        fieldType := made.fieldType
        isComplex := made.isComplex }
  names : IsMember registry owner source.name
    { instanceName := made.instanceName
      staticName := made.staticName
      parameterName := made.parameterName }

theorem IsPropertyOf.mono {owner : String} {isKey : Bool} {source : Schema.Property}
    {made : Service.Property} (grows : earlier.Extends later)
    (property : IsPropertyOf language complex earlier owner isKey source made) :
    IsPropertyOf language complex later owner isKey source made :=
  { property with names := property.names.mono grows }

theorem IsPropertyOf.exists_fieldType {owner : String} {isKey : Bool} {source : Schema.Property}
    {made : Service.Property}
    (property : IsPropertyOf language complex earlier owner isKey source made)
    (primitive : made.isComplex = false) :
    ∃ type : EdmType, made.fieldType = language.fieldType type := by
  obtain ⟨reference, -, typed⟩ := property.typing
  exact typed.exists_fieldType primitive

theorem advances_property {owner ns type : String} {isKey : Bool} {source : Schema.Property}
    {made : Service.Property}
    (ran : (property language input complex owner ns type isKey source).run start =
      .ok (made, stop)) :
    start.Advances stop [] ∧
      IsPropertyOf language complex stop.registry owner isKey source made := by
  obtain ⟨typing, middle, ranType, ran⟩ := run_bind_eq_ok.1 ran
  obtain ⟨rfl, typed⟩ := isTyped_of_propertyType ranType
  obtain ⟨names, last, ranNames, ran⟩ := run_bind_eq_ok.1 ran
  obtain ⟨rfl, rfl⟩ := run_pure_eq_ok.1 ran
  obtain ⟨advances, member⟩ := advances_memberNames ranNames
  exact ⟨advances, rfl, rfl, rfl, rfl, rfl, rfl, typed, member⟩

theorem advances_properties {owner ns type : String} (isKey : Schema.Property → Bool)
    {sources : List Schema.Property} {made : List Service.Property}
    (ran : (sources.mapM fun source =>
      property language input complex owner ns type (isKey source) source).run start =
        .ok (made, stop)) :
    start.Advances stop [] ∧ List.Forall₂ (fun source =>
      IsPropertyOf language complex stop.registry owner (isKey source) source) sources made := by
  apply advances_mapM_quiet (fun registry source =>
    IsPropertyOf language complex registry owner (isKey source) source) ?_ ?_ ran
  · intro earlier later source made grows isProperty
    exact isProperty.mono grows
  · intro source _ before after made _ ran
    exact advances_property ran

/-- A complex type with the complex type of the schema that it is made from. -/
structure IsComplexTypeOf (language : TargetLanguage) (complex : Dictionary ComplexNames)
    (registry : Name.Registry) (source : Schema.ComplexType) (made : Service.ComplexType) :
    Prop where
  originalName : made.originalName = source.name
  qualifiedName : made.qualifiedName = source.qualifiedName
  names : complex.get? source.qualifiedName = some
    { typeName := made.typeName, factoryName := made.factoryName, fieldType := made.fieldType }
  properties : List.Forall₂ (IsPropertyOf language complex registry made.typeName false)
    source.properties made.properties

theorem IsComplexTypeOf.mono {source : Schema.ComplexType} {made : Service.ComplexType}
    (grows : earlier.Extends later)
    (type : IsComplexTypeOf language complex earlier source made) :
    IsComplexTypeOf language complex later source made :=
  { type with properties := type.properties.imp fun _ _ property => property.mono grows }

theorem advances_complexType {source : Schema.ComplexType} {made : Service.ComplexType}
    (ran : (complexType language input complex source).run start = .ok (made, stop)) :
    start.Advances stop [] ∧ IsComplexTypeOf language complex stop.registry source made := by
  unfold complexType at ran
  cases named : complex.get? source.qualifiedName with
  | none =>
      simp only [named] at ran
      exact (run_fail_ne_ok ran).elim
  | some names =>
      simp only [named] at ran
      obtain ⟨properties, last, ranProperties, ran⟩ := run_bind_eq_ok.1 ran
      obtain ⟨rfl, rfl⟩ := run_pure_eq_ok.1 ran
      obtain ⟨advances, made⟩ := advances_properties (fun _ => false) ranProperties
      exact ⟨advances, rfl, rfl, named, made⟩

theorem advances_complexTypes {sources : List Schema.ComplexType}
    {made : List Service.ComplexType}
    (ran : (sources.mapM (complexType language input complex)).run start = .ok (made, stop)) :
    start.Advances stop [] ∧
      List.Forall₂ (IsComplexTypeOf language complex stop.registry) sources made := by
  apply advances_mapM_quiet (IsComplexTypeOf language complex) ?_ ?_ ran
  · intro earlier later source type grows isType
    exact isType.mono grows
  · intro source _ before after type _ ran
    exact advances_complexType ran

end ODataClient.Model
