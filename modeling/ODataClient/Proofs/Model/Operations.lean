import ODataClient.Proofs.Model.Functions
import ODataClient.Proofs.Name.Sorts

/-!
# Operations of model building

What a step of model building does to the registry is a run of operations. Which operations these may
be is known of each step: the members of a class, for one, are asked for by its name and by nothing
but their own.
-/

namespace ODataClient

namespace Build

variable {α β ε : Type} {allowed : Name.Operation → Prop} {step : Build α} {start stop : BuildState}

/-- A step that does nothing to the registry but allowed operations. -/
def Operates (allowed : Name.Operation → Prop) (step : Build α) : Prop :=
  ∀ ⦃start result stop⦄, step.run start = .ok (result, stop) →
    ∃ operations : List Name.Operation, (∀ operation ∈ operations, allowed operation) ∧
      (start.registry.run operations).2 = stop.registry

theorem operates_of_same
    (same : ∀ ⦃start result stop⦄, step.run start = .ok (result, stop) →
      start.registry = stop.registry) : Operates allowed step :=
  fun _ _ _ ran => ⟨[], by simp, same ran⟩

theorem operates_of_one {operation : Name.Operation} (isAllowed : allowed operation)
    (does : ∀ ⦃start result stop⦄, step.run start = .ok (result, stop) →
      (start.registry.step operation).2 = stop.registry) : Operates allowed step :=
  fun _ _ _ ran => ⟨[operation], by simpa using isAllowed, does ran⟩

theorem operates_pure {value : α} : Operates allowed (pure value) :=
  operates_of_same fun _ _ _ ran => congrArg BuildState.registry (run_pure_eq_ok.1 ran).2

theorem operates_fail {error : ModelError} : Operates allowed (fail error : Build α) :=
  fun _ _ _ ran => (run_fail_ne_ok ran).elim

theorem operates_lift {reason : ε → BuildError} {outcome : Except ε α} :
    Operates allowed (lift reason outcome) :=
  operates_of_same fun _ _ _ ran => congrArg BuildState.registry (run_lift_eq_ok.1 ran).2

theorem operates_nameOf? {slot : Name.Slot} : Operates allowed (nameOf? slot) :=
  operates_of_same fun _ _ _ ran => congrArg BuildState.registry (run_nameOf?_eq_ok.1 ran).2

theorem operates_report {finding : Diagnostic} : Operates allowed (report finding) := by
  apply operates_of_same
  rintro start result stop ⟨⟩
  rfl

theorem operates_reserve {scope : Name.Scope} {used : String}
    (isAllowed : allowed (.reserve scope used)) : Operates allowed (reserve scope used) := by
  apply operates_of_one isAllowed
  rintro start result stop ⟨⟩
  rfl

theorem operates_name {request : Name.Request} (isAllowed : allowed (.resolve request)) :
    Operates allowed (name request) := by
  apply operates_of_one isAllowed
  intro start result stop ran
  obtain ⟨registry, resolved, rfl⟩ := run_name_eq_ok.1 ran
  simp only [Name.Registry.step, resolved]

theorem Operates.bind {next : α → Build β} (first : Operates allowed step)
    (rest : ∀ value, Operates allowed (next value)) : Operates allowed (step >>= next) := by
  intro start result stop ran
  obtain ⟨value, middle, ranFirst, ranRest⟩ := run_bind_eq_ok.1 ran
  obtain ⟨operations, allAllowed, toMiddle⟩ := first ranFirst
  obtain ⟨others, othersAllowed, toStop⟩ := rest value ranRest
  refine ⟨operations ++ others, List.forall_mem_append.2 ⟨allAllowed, othersAllowed⟩, ?_⟩
  rw [Name.Registry.run_append, toMiddle, toStop]

theorem operates_mapM {step : α → Build β} {items : List α}
    (each : ∀ item ∈ items, Operates allowed (step item)) : Operates allowed (items.mapM step) := by
  induction items with
  | nil => exact operates_pure
  | cons item items ih =>
      rw [List.forall_mem_cons] at each
      rw [List.mapM_cons]
      exact each.1.bind fun _ => (ih each.2).bind fun _ => operates_pure

theorem operates_memberNames {owner key : String}
    (members : ∀ kind, allowed (.resolve (.member kind owner key))) :
    Operates allowed (memberNames owner key) := by
  refine (operates_name (members _)).bind fun _ => ?_
  refine (operates_name (members _)).bind fun _ => ?_
  exact (operates_name (members _)).bind fun _ => operates_pure

end Build

namespace Model

open Build

variable {allowed : Name.Operation → Prop} {language : TargetLanguage} {input : ModelInput}
  {complex : Dictionary ComplexNames}

theorem operates_entityClasses
    (classes : ∀ name sets, allowed (.resolve (.entityClass name sets))) :
    Operates allowed (entityClasses input) := by
  refine operates_mapM fun set _ => ?_
  split
  · exact operates_fail
  · exact (operates_name (classes _ _)).bind fun _ => operates_pure

theorem operates_complexNames
    (types : ∀ qualifiedName name, allowed (.resolve (.complexType qualifiedName name)))
    (factories : ∀ qualifiedName name, allowed (.resolve (.factory qualifiedName name))) :
    Operates allowed (complexNames language input) := by
  refine (operates_mapM fun type _ => ?_).bind fun _ => operates_pure
  refine (operates_name (types _ _)).bind fun _ => ?_
  exact (operates_name (factories _ _)).bind fun _ => operates_pure

theorem operates_propertyType {owner : String} {source : Schema.Property} :
    Operates allowed (propertyType language complex owner source) :=
  operates_of_same fun _ _ _ ran => congrArg BuildState.registry (isTyped_of_propertyType ran).1

theorem operates_result {function : Schema.FunctionImport} :
    Operates allowed (result language input complex function) :=
  operates_of_same fun _ _ _ ran => congrArg BuildState.registry (isResultOf_of_result ran).1

section Members

variable {owner : String} (members : ∀ kind key, allowed (.resolve (.member kind owner key)))

include members

theorem operates_property {ns type : String} {isKey : Bool} {source : Schema.Property} :
    Operates allowed (property language input complex owner ns type isKey source) := by
  refine operates_propertyType.bind fun _ => ?_
  exact (operates_memberNames (members · _)).bind fun _ => operates_pure

theorem operates_navigationProperty {type : String} {source : Schema.NavigationProperty} :
    Operates allowed (navigationProperty input owner type source) := by
  have drop {location reason : String} : Operates allowed (dropNavigation location reason) :=
    operates_report.bind fun _ => operates_pure
  unfold navigationProperty
  split
  · exact drop
  · split
    · exact drop
    · refine operates_nameOf?.bind fun held => ?_
      split
      · exact drop
      · exact (operates_memberNames (members · _)).bind fun _ => operates_pure

/-- An entity is made with nothing but the names of its own members. -/
theorem operates_entity {set : Schema.EntitySet} {type : Schema.EntityType}
    (reserved : allowed (.reserve { space := .staticMembers, owner } "ALL_FIELDS")) :
    Operates allowed (entity language input complex set type owner) := by
  refine (operates_reserve reserved).bind fun _ => ?_
  refine (operates_mapM fun _ _ => operates_property members).bind fun _ => ?_
  exact (operates_mapM fun _ _ => operates_navigationProperty members).bind fun _ => operates_pure

end Members

theorem operates_complexType {source : Schema.ComplexType}
    (members : ∀ names, complex.get? source.qualifiedName = some names →
      ∀ kind key, allowed (.resolve (.member kind names.typeName key))) :
    Operates allowed (complexType language input complex source) := by
  unfold complexType
  split
  · exact operates_fail
  · next names named =>
    have own := members names named
    exact (operates_mapM fun _ _ => operates_property own).bind fun _ => operates_pure

theorem operates_functionImport {function : Schema.FunctionImport} {functionName : String}
    (parametersType : allowed (.resolve (.parametersType function.name functionName)))
    (parameters : ∀ key, allowed (.resolve (.member .parameter functionName key))) :
    Operates allowed (functionImport language input complex function functionName) := by
  refine (operates_name parametersType).bind fun _ => ?_
  refine (operates_mapM fun source _ => ?_).bind fun _ =>
    operates_result.bind fun _ => operates_pure
  refine operates_lift.bind fun reference => ?_
  split
  · refine operates_lift.bind fun _ => ?_
    exact (operates_name (parameters _)).bind fun _ => operates_pure
  · exact operates_fail

/-- Fields are asked for by the names of their properties only, in whatever model is built. -/
theorem operates_service :
    Operates (·.IsKeyed .instanceMember) (Model.service language input) := by
  have other {request : Name.Request} (differs : request.slot.kind ≠ .instanceMember) :
      (Name.Operation.resolve request).IsKeyed .instanceMember :=
    fun same => (differs same).elim
  have members (owner : String) (kind : NameKind) (key : String) :
      (Name.Operation.resolve (.member kind owner key)).IsKeyed .instanceMember :=
    fun _ => ⟨rfl, rfl⟩
  refine operates_lift.bind fun types => ?_
  refine (operates_name (other (by simp [Name.Request.directory, Name.Request.ofKey]))).bind
    fun _ => ?_
  refine (operates_mapM fun _ _ => operates_name (other ?_)).bind fun functionNames => ?_
  · simp [Name.Request.function, Name.Request.ofKey]
  refine (operates_entityClasses fun _ _ => other ?_).bind fun classes => ?_
  · simp [Name.Request.entityClass]
  refine (operates_complexNames (fun _ _ => other ?_) fun _ _ => other ?_).bind fun complex => ?_
  · simp [Name.Request.complexType]
  · simp [Name.Request.factory]
  refine (operates_mapM fun _ _ => operates_complexType fun names _ => members _).bind fun _ => ?_
  refine (operates_mapM fun _ _ => operates_entity (members _) trivial).bind fun _ => ?_
  refine (operates_mapM fun _ _ => ?_).bind fun _ => operates_pure
  refine operates_functionImport (other ?_) fun _ => members _ _ _
  simp [Name.Request.parametersType]

/-- A field is called like its property, unless it has got a number. -/
theorem mem_variants_of_run_service {name owner key given : String} {convention : NamingConvention}
    {service : Service} {stop : BuildState}
    (ran : (Model.service language input).run
      { registry := .empty name convention, findings := [] } = .ok (service, stop))
    (held : stop.registry.lookup { kind := .instanceMember, owner, key } = some given) :
    given ∈ Name.variants (convention.identifier key .instanceMember) := by
  obtain ⟨operations, keyed, toStop⟩ := operates_service ran
  rw [← toStop] at held
  exact Name.Registry.mem_variants_of_run keyed Name.Registry.lookup_empty held

end Model

end ODataClient
