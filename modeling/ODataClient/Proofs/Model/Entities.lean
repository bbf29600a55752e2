import ODataClient.Proofs.Model.Types

/-!
# Entities and their navigation properties

What an entity of a model has to do with the entity set and the entity type that it is made from. Of
the navigation properties, those that lead nowhere are left out, and the step that makes the entity
reports exactly these.
-/

namespace ODataClient.Model

open Build

variable {language : TargetLanguage} {input : ModelInput} {complex : Dictionary ComplexNames}
  {registry earlier later : Name.Registry} {start stop : BuildState}

/-- Why a navigation property is left out, if it is: the role that it leads to is not declared, or
no entity set holds the entities in that role. -/
def dropReason? (input : ModelInput) (navigation : Schema.NavigationProperty) : Option String :=
  match navigationEnd? input navigation with
  | none => some s!"role '{navigation.toRole}' of '{navigation.relationship}' is not declared"
  | some target =>
      if (input.schema.entitySetsOf target.type).isEmpty then
        some s!"target entity type '{target.type}' has no entity set"
      else none

/-- Whether a navigation property is made. -/
def isKept (input : ModelInput) (navigation : Schema.NavigationProperty) : Bool :=
  (dropReason? input navigation).isNone

/-- The finding that a navigation property is left out. -/
def dropFinding (type : String) (navigation : Schema.NavigationProperty) (reason : String) :
    Diagnostic :=
  let location := type ++ "." ++ navigation.name
  (Diagnostic.warning "build"
    s!"dropping navigation property '{location}': {reason}").locatedAt location

/-- The findings about the navigation properties of a type. -/
def dropFindings (input : ModelInput) (type : Schema.EntityType) : List Diagnostic :=
  type.navigation.filterMap fun navigation =>
    (dropReason? input navigation).map (dropFinding type.name navigation)

/-- A navigation property of the class `owner` with the one of the schema that it is made from. It
leads to the first entity set that holds the entities at its end. -/
structure IsNavigationOf (input : ModelInput) (registry : Name.Registry) (owner : String)
    (source : Schema.NavigationProperty) (made : Service.NavigationProperty) : Prop where
  originalName : made.originalName = source.name
  target : ∃ target set, navigationEnd? input source = some target ∧
    (input.schema.entitySetsOf target.type).head? = some set ∧
    made.cardinality = (if target.multiplicity.isMany then .many else .one) ∧
    made.targetSet = set.name ∧ registry.lookup (classSlot set) = some made.targetClass
  names : IsMember registry owner source.name
    { instanceName := made.instanceName
      staticName := made.staticName
      parameterName := made.parameterName }

theorem IsNavigationOf.mono {owner : String} {source : Schema.NavigationProperty}
    {made : Service.NavigationProperty} (grows : earlier.Extends later)
    (navigation : IsNavigationOf input earlier owner source made) :
    IsNavigationOf input later owner source made := by
  obtain ⟨originalName, ⟨target, set, found, first, cardinality, name, held⟩, names⟩ := navigation
  exact ⟨originalName, ⟨target, set, found, first, cardinality, name, grows.lookup _ _ held⟩,
    names.mono grows⟩

/-- What is made of a navigation property of the schema: nothing, if there is a reason to leave it
out. -/
inductive IsKeptOrDropped (input : ModelInput) (registry : Name.Registry) (owner : String)
    (source : Schema.NavigationProperty) : Option Service.NavigationProperty → Prop
  | dropped {reason : String} (because : dropReason? input source = some reason) :
      IsKeptOrDropped input registry owner source none
  | kept {made : Service.NavigationProperty} (leads : dropReason? input source = none)
      (navigation : IsNavigationOf input registry owner source made) :
      IsKeptOrDropped input registry owner source (some made)

theorem IsKeptOrDropped.mono {owner : String} {source : Schema.NavigationProperty}
    {made : Option Service.NavigationProperty} (grows : earlier.Extends later)
    (outcome : IsKeptOrDropped input earlier owner source made) :
    IsKeptOrDropped input later owner source made := by
  cases outcome with
  | dropped because => exact .dropped because
  | kept leads navigation => exact .kept leads (navigation.mono grows)

theorem forall₂_filter_isKept {owner : String} {sources : List Schema.NavigationProperty}
    {made : List (Option Service.NavigationProperty)}
    (outcomes : List.Forall₂ (IsKeptOrDropped input registry owner) sources made) :
    List.Forall₂ (IsNavigationOf input registry owner) (sources.filter (isKept input))
      (made.filterMap id) := by
  induction outcomes with
  | nil => exact .nil
  | cons outcome _ ih =>
      cases outcome with
      | dropped because => simpa [isKept, because] using ih
      | kept leads navigation => simpa [isKept, leads] using ⟨navigation, ih⟩

/-- Every entity set has its class. -/
def HasClasses (schema : Schema) (registry : Name.Registry) : Prop :=
  ∀ set ∈ schema.entitySets, ∃ className, registry.lookup (classSlot set) = some className

theorem HasClasses.mono (grows : earlier.Extends later)
    (classes : HasClasses input.schema earlier) : HasClasses input.schema later := by
  intro set member
  obtain ⟨className, held⟩ := classes set member
  exact ⟨className, grows.lookup _ _ held⟩

theorem run_dropNavigation_eq_ok {location reason : String}
    {made : Option Service.NavigationProperty}
    (ran : (dropNavigation location reason).run start = .ok (made, stop)) :
    made = none ∧ start.Advances stop [(Diagnostic.warning "build"
      s!"dropping navigation property '{location}': {reason}").locatedAt location] := by
  obtain ⟨_, middle, reported, ran⟩ := run_bind_eq_ok.1 ran
  obtain ⟨rfl, rfl⟩ := run_pure_eq_ok.1 ran
  exact ⟨rfl, advances_report reported⟩

/-- A navigation property is made unless there is a reason to leave it out, and that reason is
reported. -/
theorem advances_navigationProperty {owner : String} {type : Schema.EntityType}
    {source : Schema.NavigationProperty} {made : Option Service.NavigationProperty}
    (classes : HasClasses input.schema start.registry)
    (ran : (navigationProperty input owner type.name source).run start = .ok (made, stop)) :
    start.Advances stop
        ((dropReason? input source).map (dropFinding type.name source)).toList ∧
      IsKeptOrDropped input stop.registry owner source made := by
  unfold navigationProperty at ran
  cases found : navigationEnd? input source with
  | none =>
      simp only [found] at ran
      obtain ⟨rfl, advances⟩ := run_dropNavigation_eq_ok ran
      have because : dropReason? input source =
          some s!"role '{source.toRole}' of '{source.relationship}' is not declared" := by
        simp [dropReason?, found]
      rw [because]
      exact ⟨advances, .dropped because⟩
  | some target =>
      simp only [found] at ran
      cases first : (input.schema.entitySetsOf target.type).head? with
      | none =>
          simp only [first] at ran
          obtain ⟨rfl, advances⟩ := run_dropNavigation_eq_ok ran
          have because : dropReason? input source =
              some s!"target entity type '{target.type}' has no entity set" := by
            simp [dropReason?, found, List.head?_eq_none_iff.1 first]
          rw [because]
          exact ⟨advances, .dropped because⟩
      | some set =>
          simp only [first] at ran
          have isSet : set ∈ input.schema.entitySets :=
            List.mem_of_mem_filter (List.mem_of_head? first)
          have leads : dropReason? input source = none := by
            have nonempty := List.ne_nil_of_mem (List.mem_of_head? first)
            simp [dropReason?, found, nonempty]
          obtain ⟨className, held⟩ := classes set isSet
          obtain ⟨given, middle, ranClass, ran⟩ := run_bind_eq_ok.1 ran
          obtain ⟨same, rfl⟩ := run_nameOf?_eq_ok.1 ranClass
          obtain rfl : given = some className := same.symm.trans held
          obtain ⟨names, last, ranNames, ran⟩ := run_bind_eq_ok.1 ran
          obtain ⟨rfl, rfl⟩ := run_pure_eq_ok.1 ran
          obtain ⟨advances, member⟩ := advances_memberNames ranNames
          rw [leads]
          refine ⟨advances, .kept leads ⟨rfl, ⟨target, set, found, first, rfl, rfl, ?_⟩, member⟩⟩
          exact advances.registry.lookup _ _ held

/-- The navigation properties of a type that are not left out are made in their order, and those
that are left out are reported in theirs. -/
theorem advances_navigation {owner : String} {type : Schema.EntityType}
    {made : List (Option Service.NavigationProperty)}
    (classes : HasClasses input.schema start.registry)
    (ran : (type.navigation.mapM (navigationProperty input owner type.name)).run start =
      .ok (made, stop)) :
    start.Advances stop (dropFindings input type) ∧
      List.Forall₂ (IsNavigationOf input stop.registry owner)
        (type.navigation.filter (isKept input)) (made.filterMap id) := by
  have each : start.Advances stop (type.navigation.flatMap fun source =>
        ((dropReason? input source).map (dropFinding type.name source)).toList) ∧
      List.Forall₂ (IsKeptOrDropped input stop.registry owner) type.navigation made := by
    apply advances_mapM (fun source =>
      ((dropReason? input source).map (dropFinding type.name source)).toList)
      (fun registry => IsKeptOrDropped input registry owner) ?_ ?_ ran
    · intro earlier later source made grows outcome
      exact outcome.mono grows
    · intro source _ before after made grows ran
      exact advances_navigationProperty (classes.mono grows) ran
  obtain ⟨advances, outcomes⟩ := each
  rw [← List.filterMap_eq_flatMap_toList] at advances
  exact ⟨advances, forall₂_filter_isKept outcomes⟩

/-- An entity of a set with the entity type that it is made from. -/
structure IsEntityOf (language : TargetLanguage) (input : ModelInput)
    (complex : Dictionary ComplexNames) (registry : Name.Registry) (set : Schema.EntitySet)
    (type : Schema.EntityType) (made : Service.Entity) : Prop where
  entitySetName : made.entitySetName = set.name
  entityTypeName : made.entityTypeName = type.name
  properties : List.Forall₂ (fun source =>
    IsPropertyOf language complex registry made.className (type.isKey source.name) source)
    type.properties made.properties
  keys : made.keys = made.properties.filter (·.isKey)
  navigation : List.Forall₂ (IsNavigationOf input registry made.className)
    (type.navigation.filter (isKept input)) made.navigation

theorem IsEntityOf.mono {set : Schema.EntitySet} {type : Schema.EntityType}
    {made : Service.Entity} (grows : earlier.Extends later)
    (entity : IsEntityOf language input complex earlier set type made) :
    IsEntityOf language input complex later set type made :=
  { entity with
    properties := entity.properties.imp fun _ _ property => property.mono grows
    navigation := entity.navigation.imp fun _ _ navigation => navigation.mono grows }

theorem advances_entity {set : Schema.EntitySet} {type : Schema.EntityType} {className : String}
    {made : Service.Entity} (classes : HasClasses input.schema start.registry)
    (ran : (entity language input complex set type className).run start = .ok (made, stop)) :
    start.Advances stop (dropFindings input type) ∧ made.className = className ∧
      IsEntityOf language input complex stop.registry set type made := by
  obtain ⟨_, first, ranReserve, ran⟩ := run_bind_eq_ok.1 ran
  obtain ⟨properties, second, ranProperties, ran⟩ := run_bind_eq_ok.1 ran
  obtain ⟨navigation, third, ranNavigation, ran⟩ := run_bind_eq_ok.1 ran
  obtain ⟨rfl, rfl⟩ := run_pure_eq_ok.1 ran
  have toFirst := advances_reserve ranReserve
  obtain ⟨toSecond, madeProperties⟩ :=
    advances_properties (fun source => type.isKey source.name) ranProperties
  have quiet := toSecond.after_quiet toFirst
  obtain ⟨toThird, madeNavigation⟩ :=
    advances_navigation (classes.mono quiet.registry) ranNavigation
  refine ⟨toThird.after_quiet quiet, rfl, rfl, rfl, ?_, rfl, madeNavigation⟩
  apply madeProperties.imp
  intro source property isProperty
  exact isProperty.mono toThird.registry

end ODataClient.Model
