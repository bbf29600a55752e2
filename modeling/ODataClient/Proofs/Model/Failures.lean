import ODataClient.Proofs.Model.Whole
import ODataClient.Proofs.Pipeline.Standard
import ODataClient.Proofs.Schema.References

/-!
# Failures of model building

Whether the types of a schema are declared is checked when its documents are read, and whether they
can be put into order and found in entity sets is checked by lints. A schema that has passed both
has a model, unless it uses a primitive that does not exist, a parameter that cannot be passed, or
one name too often.
-/

namespace ODataClient

/-- The errors that no check of a schema rules out. -/
inductive BuildError.IsUnchecked : BuildError → Prop
  | primitive (error : UnknownEdmType) : IsUnchecked (.edmType error)
  | parameter (function parameter type : String) :
      IsUnchecked (.model (.unsupportedParameterType function parameter type))
  | exhausted (service : String) (kind : NameKind) (key candidate : String) (limit : Nat) :
      IsUnchecked (.name (.exhausted service kind key candidate limit))

namespace Build

variable {α β : Type} {start : BuildState} {step : Build α} {next : α → Build β}

/-- Whether a step that fails does so with an error that no check rules out. -/
def FailsUnchecked (step : Build α) (start : BuildState) : Prop :=
  ∀ error, step.run start = .error error → error.IsUnchecked

/-- Of two steps the first fails, or else the second does where the first has led. -/
theorem run_bind_eq_error {error : BuildError} :
    (step >>= next).run start = .error error ↔ step.run start = .error error ∨
      ∃ value middle, step.run start = .ok (value, middle) ∧
        (next value).run middle = .error error := by
  rw [StateT.run_bind]
  cases step.run start with
  | error first => simp [bind, Except.bind]
  | ok outcome => simp [bind, Except.bind, Prod.ext_iff]

theorem run_lift_eq_error {ε α : Type} {reason : ε → BuildError} {outcome : Except ε α}
    {error : BuildError} : (lift reason outcome).run start = .error error ↔
      ∃ cause, outcome = .error cause ∧ reason cause = error := by
  cases outcome with
  | error cause =>
      constructor
      · intro ran
        cases ran
        exact ⟨cause, rfl, rfl⟩
      · rintro ⟨_, ⟨⟩, rfl⟩
        rfl
  | ok value =>
      constructor
      · intro ran
        cases ran
      · rintro ⟨_, ⟨⟩, -⟩

theorem FailsUnchecked.bind (first : FailsUnchecked step start)
    (rest : ∀ value middle, step.run start = .ok (value, middle) →
      FailsUnchecked (next value) middle) : FailsUnchecked (step >>= next) start := by
  intro error failed
  rcases run_bind_eq_error.1 failed with failed | ⟨value, middle, ran, failed⟩
  · exact first error failed
  · exact rest value middle ran error failed

theorem failsUnchecked_pure {value : α} : FailsUnchecked (pure value : Build α) start := by
  intro error failed
  cases failed

theorem failsUnchecked_reserve {scope : Name.Scope} {used : String} :
    FailsUnchecked (reserve scope used) start := by
  intro error failed
  cases failed

theorem failsUnchecked_report {finding : Diagnostic} : FailsUnchecked (report finding) start := by
  intro error failed
  cases failed

theorem failsUnchecked_nameOf? {slot : Name.Slot} : FailsUnchecked (nameOf? slot) start := by
  intro error failed
  cases failed

theorem failsUnchecked_lift {ε : Type} {reason : ε → BuildError} {outcome : Except ε α}
    (unchecked : ∀ error, outcome = .error error → (reason error).IsUnchecked) :
    FailsUnchecked (lift reason outcome) start := by
  intro error failed
  obtain ⟨cause, refused, rfl⟩ := run_lift_eq_error.1 failed
  exact unchecked cause refused

theorem failsUnchecked_typeReference {text : String} {reference : TypeReference}
    (parsed : TypeReference.parse text = .ok reference) :
    FailsUnchecked (typeReference text) start := by
  apply failsUnchecked_lift
  intro error failed
  simp [parsed] at failed

theorem failsUnchecked_primitive {language : TargetLanguage} {name : String} :
    FailsUnchecked (primitive language name) start :=
  failsUnchecked_lift fun error _ => .primitive error

/-- A name that is asked for explicitly is refused only if it is taken. -/
theorem failsUnchecked_name {request : Name.Request}
    (free : ∀ wanted, request.explicit = some wanted →
      start.registry.isTaken request.slot.scope wanted = false) :
    FailsUnchecked (name request) start := by
  intro error failed
  simp only [name, StateT.run, Name.Registry.resolve_eq] at failed
  cases held : start.registry.lookup request.slot with
  | some given => simp [held] at failed
  | none =>
      cases explicit : request.explicit with
      | some wanted => simp [held, Name.Registry.choose, explicit, free wanted explicit,
          Except.map] at failed
      | none =>
          simp only [held, Name.Registry.choose, explicit] at failed
          split at failed
          · contradiction
          · next refused =>
            split at refused
            · contradiction
            · cases refused
              cases failed
              exact .exhausted ..

theorem failsUnchecked_memberNames {owner key : String} :
    FailsUnchecked (memberNames owner key) start := by
  have named (kind : NameKind) (before : BuildState) :
      FailsUnchecked (name (.member kind owner key)) before :=
    failsUnchecked_name fun _ explicit => by cases explicit
  refine (named _ _).bind fun _ _ _ => ?_
  refine (named _ _).bind fun _ _ _ => ?_
  exact (named _ _).bind fun _ _ _ => failsUnchecked_pure

/-- Steps for the items of a list fail as each of them does at the states that they reach. -/
theorem failsUnchecked_mapM (Reached : BuildState → Prop) {step : α → Build β} {items : List α}
    (initially : Reached start)
    (keeps : ∀ item ∈ items, ∀ ⦃before after result⦄, Reached before →
      (step item).run before = .ok (result, after) → Reached after)
    (each : ∀ item ∈ items, ∀ before, Reached before → FailsUnchecked (step item) before) :
    FailsUnchecked (items.mapM step) start := by
  induction items generalizing start with
  | nil => exact failsUnchecked_pure
  | cons item items ih =>
      rw [List.mapM_cons]
      refine (each item List.mem_cons_self start initially).bind fun _ middle ran => ?_
      have reached := keeps item List.mem_cons_self initially ran
      refine (ih reached ?_ ?_).bind fun _ _ _ => failsUnchecked_pure
      · exact fun other member => keeps other (List.mem_cons_of_mem item member)
      · exact fun other member => each other (List.mem_cons_of_mem item member)

/-- Steps that fail in this way wherever they start need no care about the states in between. -/
theorem failsUnchecked_mapM_anywhere {step : α → Build β} {items : List α}
    (each : ∀ item ∈ items, ∀ before, FailsUnchecked (step item) before) :
    FailsUnchecked (items.mapM step) start :=
  failsUnchecked_mapM (fun _ => True) trivial (fun _ _ _ _ _ _ _ => trivial)
    fun item member before _ => each item member before

end Build

/-- A schema whose references can be read and, apart from those of parameters, lead to primitives
or to its own types. -/
structure Schema.IsResolved (schema : Schema) : Prop where
  entityTypes : ∀ type ∈ schema.entityTypes, ∀ property ∈ type.properties,
    LeadsToOneOf id schema.complexNames property.type
  complexTypes : ∀ type ∈ schema.complexTypes, ∀ property ∈ type.properties,
    LeadsToOneOf id schema.complexNames property.type
  entitySets : ∀ set ∈ schema.entitySets, (schema.findEntityType? set.type).isSome
  parameters : ∀ function ∈ schema.functionImports, ∀ parameter ∈ function.parameters,
    (TypeReference.parse parameter.type).isOk
  returnTypes : ∀ function ∈ schema.functionImports, ∀ type ∈ function.returnType,
    LeadsToOneOf id schema.typeNames type

namespace Model

open Build

variable {language : TargetLanguage} {input : ModelInput} {complex : Dictionary ComplexNames}
  {start : BuildState}

theorem exists_orderedComplexTypes {schema : Schema} (passes : schema.Passes Lint.all) :
    ∃ types, orderedComplexTypes schema = .ok types := by
  have clean := passes Lint.complexTypeCycle (by simp [Lint.all])
  cases walked : (ComplexGraph.ofSchema schema).postOrder with
  | ok order =>
      refine ⟨order.filterMap (ComplexGraph.ofSchema schema).find?, ?_⟩
      simp only [orderedComplexTypes, walked]
  | error cycle =>
      simp only [Lint.complexTypeCycle, walked, List.forall_mem_singleton] at clean
      contradiction

theorem isServed_of_passes {schema : Schema} {function : Schema.FunctionImport}
    {text name : String} {reference : TypeReference} {type : Schema.EntityType}
    (passes : schema.Passes Lint.all) (declared : function ∈ schema.functionImports)
    (returned : function.returnType = some text)
    (parsed : TypeReference.parse text = .ok reference)
    (named : reference.qualifiedName? = some name)
    (found : schema.findEntityType? name = some type) : Lint.isServed schema type = true := by
  have clean := passes Lint.orphanEntityReturn (by simp [Lint.all])
  by_contra unserved
  have orphan : Lint.orphanType? schema function = some type.qualifiedName := by
    simp [Lint.orphanType?, returned, parsed, Except.toOption, named, found, unserved]
  have reported := clean _ (List.mem_filterMap.2 ⟨function, declared, congrArg _ orphan⟩)
  contradiction

theorem exists_resultSet? (function : Schema.FunctionImport) {type : Schema.EntityType}
    (served : Lint.isServed input.schema type = true) :
    ∃ set, resultSet? input function type.qualifiedName = some set := by
  rw [← Option.ne_none_iff_exists', ne_eq, resultSet?_eq_none_iff]
  simpa [Lint.isServed] using served

theorem exists_get?_of_mem_complexNames {registry : Name.Registry} {name : String}
    (naming : IsNaming language input.schema registry complex)
    (declared : name ∈ input.schema.complexNames) : ∃ names, complex.get? name = some names :=
  Dictionary.exists_get?_of_mem_keys ((naming.keys name).2 declared)

theorem failsUnchecked_propertyType {registry : Name.Registry} {owner : String}
    {source : Schema.Property} (naming : IsNaming language input.schema registry complex)
    (leads : Schema.LeadsToOneOf id input.schema.complexNames source.type) :
    FailsUnchecked (propertyType language complex owner source) start := by
  obtain ⟨reference, parsed, declared⟩ := leads
  refine (failsUnchecked_typeReference parsed).bind fun read _ ran => ?_
  obtain ⟨sameText, -⟩ := run_typeReference_eq_ok.1 ran
  obtain rfl := Except.ok.inj (parsed.symm.trans sameText)
  cases element : reference.element with
  | primitive name => exact failsUnchecked_primitive.bind fun _ _ _ => failsUnchecked_pure
  | declared ns name =>
      obtain ⟨names, named⟩ := exists_get?_of_mem_complexNames naming (declared ns name element)
      simp only [id] at named
      simp only [named]
      exact failsUnchecked_pure

theorem failsUnchecked_property {registry : Name.Registry} {owner ns type : String}
    {isKey : Bool} {source : Schema.Property}
    (naming : IsNaming language input.schema registry complex)
    (leads : Schema.LeadsToOneOf id input.schema.complexNames source.type) :
    FailsUnchecked (property language input complex owner ns type isKey source) start := by
  refine (failsUnchecked_propertyType naming leads).bind fun _ _ _ => ?_
  exact failsUnchecked_memberNames.bind fun _ _ _ => failsUnchecked_pure

theorem failsUnchecked_complexType {registry : Name.Registry} {type : Schema.ComplexType}
    (naming : IsNaming language input.schema registry complex)
    (declared : type ∈ input.schema.complexTypes) (resolved : input.schema.IsResolved) :
    FailsUnchecked (complexType language input complex type) start := by
  obtain ⟨names, named⟩ :=
    exists_get?_of_mem_complexNames naming (List.mem_map_of_mem declared)
  simp only [complexType, named]
  refine (failsUnchecked_mapM_anywhere fun source member _ => ?_).bind
    fun _ _ _ => failsUnchecked_pure
  exact failsUnchecked_property naming (resolved.complexTypes type declared source member)

theorem failsUnchecked_dropNavigation {location reason : String} :
    FailsUnchecked (dropNavigation location reason) start :=
  failsUnchecked_report.bind fun _ _ _ => failsUnchecked_pure

theorem failsUnchecked_navigationProperty {owner type : String}
    {source : Schema.NavigationProperty} :
    FailsUnchecked (navigationProperty input owner type source) start := by
  unfold navigationProperty
  split
  · exact failsUnchecked_dropNavigation
  · split
    · exact failsUnchecked_dropNavigation
    · refine failsUnchecked_nameOf?.bind fun held _ _ => ?_
      cases held with
      | none => exact failsUnchecked_dropNavigation
      | some className =>
          exact failsUnchecked_memberNames.bind fun _ _ _ => failsUnchecked_pure

theorem failsUnchecked_entity {registry : Name.Registry} {set : Schema.EntitySet}
    {type : Schema.EntityType} {className : String}
    (naming : IsNaming language input.schema registry complex)
    (declared : type ∈ input.schema.entityTypes) (resolved : input.schema.IsResolved) :
    FailsUnchecked (entity language input complex set type className) start := by
  refine failsUnchecked_reserve.bind fun _ _ _ => ?_
  refine (failsUnchecked_mapM_anywhere fun source member _ => ?_).bind fun _ _ _ => ?_
  · exact failsUnchecked_property naming (resolved.entityTypes type declared source member)
  · refine (failsUnchecked_mapM_anywhere fun _ _ _ => ?_).bind fun _ _ _ => failsUnchecked_pure
    exact failsUnchecked_navigationProperty

theorem failsUnchecked_parameter {function : Schema.FunctionImport} {functionName : String}
    {source : Schema.Parameter} (isRead : (TypeReference.parse source.type).isOk) :
    FailsUnchecked (parameter language function functionName source) start := by
  have read : ∃ reference, TypeReference.parse source.type = .ok reference := by
    cases parsed : TypeReference.parse source.type with
    | ok reference => exact ⟨reference, rfl⟩
    | error reason => simp [parsed, Except.isOk, Except.toBool] at isRead
  obtain ⟨reference, parsed⟩ := read
  refine (failsUnchecked_typeReference parsed).bind fun read _ _ => ?_
  split
  · refine failsUnchecked_primitive.bind fun _ _ _ => ?_
    refine FailsUnchecked.bind ?_ fun _ _ _ => failsUnchecked_pure
    exact failsUnchecked_name fun _ explicit => by cases explicit
  · intro error failed
    cases failed
    exact .parameter ..

/-- Returned entities are in an entity set, and that set has its class. -/
theorem failsUnchecked_result {function : Schema.FunctionImport}
    (naming : IsNaming language input.schema start.registry complex)
    (classes : HasClasses input.schema start.registry)
    (declared : function ∈ input.schema.functionImports) (resolved : input.schema.IsResolved)
    (passes : input.schema.Passes Lint.all) :
    FailsUnchecked (result language input complex function) start := by
  unfold result
  cases returned : function.returnType with
  | none => exact failsUnchecked_pure
  | some text =>
      obtain ⟨reference, parsed, leads⟩ := resolved.returnTypes function declared text returned
      refine (failsUnchecked_typeReference parsed).bind fun read middle ran => ?_
      obtain ⟨sameText, rfl⟩ := run_typeReference_eq_ok.1 ran
      obtain rfl := Except.ok.inj (parsed.symm.trans sameText)
      cases element : reference.element with
      | primitive name => exact failsUnchecked_primitive.bind fun _ _ _ => failsUnchecked_pure
      | declared ns name =>
          have isName : ns ++ "." ++ name ∈ input.schema.typeNames := leads ns name element
          cases named : complex.get? (ns ++ "." ++ name) with
          | some names =>
              simp only [named]
              exact failsUnchecked_pure
          | none =>
              have notComplex : ns ++ "." ++ name ∉ input.schema.complexNames := by
                intro isComplex
                obtain ⟨names, held⟩ := exists_get?_of_mem_complexNames naming isComplex
                simp [named] at held
              have isEntity := (List.mem_append.1 isName).resolve_right notComplex
              obtain ⟨type, found⟩ := Option.isSome_iff_exists.1
                (Schema.isSome_findEntityType?_iff.2 isEntity)
              have sameName : type.qualifiedName = ns ++ "." ++ name := by
                simpa using List.find?_some found
              have qualifiedName : reference.qualifiedName? = some (ns ++ "." ++ name) := by
                rw [TypeReference.qualifiedName?, element]
                rfl
              have served :=
                isServed_of_passes passes declared returned parsed qualifiedName found
              obtain ⟨set, chosen⟩ := exists_resultSet? function served
              rw [sameName] at chosen
              obtain ⟨className, held⟩ :=
                classes set (mem_entitySets_of_resultSet? chosen).1
              simp only [named, found, chosen]
              refine failsUnchecked_nameOf?.bind fun given _ ran => ?_
              obtain ⟨same, rfl⟩ := run_nameOf?_eq_ok.1 ran
              obtain rfl : given = some className := same.symm.trans held
              exact failsUnchecked_pure

theorem failsUnchecked_functionImport {function : Schema.FunctionImport} {functionName : String}
    (naming : IsNaming language input.schema start.registry complex)
    (classes : HasClasses input.schema start.registry)
    (declared : function ∈ input.schema.functionImports) (resolved : input.schema.IsResolved)
    (passes : input.schema.Passes Lint.all) :
    FailsUnchecked (functionImport language input complex function functionName) start := by
  refine (failsUnchecked_name fun _ explicit => by cases explicit).bind fun _ first ranType => ?_
  refine (failsUnchecked_mapM_anywhere fun source member _ => ?_).bind
    fun _ second ranParameters => ?_
  · exact failsUnchecked_parameter (resolved.parameters function declared source member)
  · have grows := (advances_parameters ranParameters).1.registry
    have steps := (advances_name (.inl rfl) ranType).1.registry.trans grows
    refine FailsUnchecked.bind ?_ fun _ _ _ => failsUnchecked_pure
    exact failsUnchecked_result (naming.mono steps) (classes.mono steps) declared resolved passes

/-- The state of the registry that the function imports need is kept from one to the next. -/
theorem failsUnchecked_functionImports {functionNames : List String}
    (named : List.Forall₂ (fun function functionName =>
        start.registry.lookup (functionSlot function) = some functionName)
      input.schema.functionImports functionNames)
    (naming : IsNaming language input.schema start.registry complex)
    (classes : HasClasses input.schema start.registry) (resolved : input.schema.IsResolved)
    (passes : input.schema.Passes Lint.all) :
    FailsUnchecked ((input.schema.functionImports.zip functionNames).mapM
      fun (function, name) => functionImport language input complex function name) start := by
  refine failsUnchecked_mapM (fun state => start.registry.Extends state.registry) (.refl _) ?_ ?_
  · intro pair member before after made grows ran
    have held := grows.lookup _ _ (List.forall₂_zip named member)
    exact grows.trans (advances_functionImport held ran).1.registry
  · intro pair member before grows
    exact failsUnchecked_functionImport (naming.mono grows) (classes.mono grows)
      (List.of_mem_zip member).1 resolved passes

theorem failsUnchecked_entityClasses (resolved : input.schema.IsResolved) :
    FailsUnchecked (entityClasses input) start := by
  refine failsUnchecked_mapM_anywhere fun set member _ => ?_
  obtain ⟨type, found⟩ := Option.isSome_iff_exists.1 (resolved.entitySets set member)
  simp only [found]
  exact (failsUnchecked_name fun _ explicit => by cases explicit).bind
    fun _ _ _ => failsUnchecked_pure

theorem failsUnchecked_complexNames : FailsUnchecked (complexNames language input) start := by
  refine (failsUnchecked_mapM_anywhere fun type _ _ => ?_).bind fun _ _ _ => failsUnchecked_pure
  refine (failsUnchecked_name fun _ explicit => by cases explicit).bind fun _ _ _ => ?_
  exact (failsUnchecked_name fun _ explicit => by cases explicit).bind
    fun _ _ _ => failsUnchecked_pure

theorem failsUnchecked_service {registry : Name.Registry}
    (free : ∀ wanted, registry.isTaken { space := .directories, owner := "" } wanted = false)
    (resolved : input.schema.IsResolved) (passes : input.schema.Passes Lint.all) :
    FailsUnchecked (Model.service language input) { registry, findings := [] } := by
  obtain ⟨types, ordered⟩ := exists_orderedComplexTypes passes
  have isOrdered := isOrdered_orderedComplexTypes ordered
  refine FailsUnchecked.bind (failsUnchecked_lift ?_) fun given start ranTypes => ?_
  · intro error failed
    simp [ordered] at failed
  obtain ⟨sameTypes, rfl⟩ := run_lift_eq_ok.1 ranTypes
  obtain rfl := Except.ok.inj (ordered.symm.trans sameTypes)
  -- Nothing has been named before the directory.
  refine (failsUnchecked_name fun wanted _ => free wanted).bind fun _ first _ => ?_
  refine FailsUnchecked.bind ?_ fun functionNames second ranNames => ?_
  · exact failsUnchecked_mapM_anywhere fun _ _ _ =>
      failsUnchecked_name fun _ explicit => by cases explicit
  refine (failsUnchecked_entityClasses resolved).bind fun classes third ranClasses => ?_
  refine failsUnchecked_complexNames.bind fun complex fourth ranComplex => ?_
  obtain ⟨-, namedFunctions⟩ := advances_functionNames ranNames
  obtain ⟨toThird, namedClasses⟩ := advances_entityClasses ranClasses
  obtain ⟨toFourth, naming⟩ := advances_complexNames ranComplex
  refine FailsUnchecked.bind ?_ fun complexTypes fifth ranComplexTypes => ?_
  · exact failsUnchecked_mapM_anywhere fun type member _ =>
      failsUnchecked_complexType naming (isOrdered.subset member) resolved
  have toFifth := (advances_complexTypes ranComplexTypes).1
  refine FailsUnchecked.bind ?_ fun entities sixth ranEntities => ?_
  · refine failsUnchecked_mapM_anywhere fun entry member _ => ?_
    obtain ⟨set, -, isClass⟩ := namedClasses.exists_of_mem_right member
    exact failsUnchecked_entity naming (List.mem_of_find?_eq_some isClass.type) resolved
  have classesHeld : List.Forall₂ (IsClassOf input.schema fifth.registry)
      input.schema.entitySets classes := by
    apply namedClasses.imp
    intro set entry isClass
    exact isClass.mono (toFourth.registry.trans toFifth.registry)
  have toSixth := (advances_entities classesHeld ranEntities).1
  have afterComplex := toFifth.registry.trans toSixth.registry
  have afterFunctions := (toThird.registry.trans toFourth.registry).trans afterComplex
  refine FailsUnchecked.bind ?_ fun _ _ _ => failsUnchecked_pure
  refine failsUnchecked_functionImports ?_ (naming.mono afterComplex) ?_ resolved passes
  · apply namedFunctions.imp
    intro function functionName held
    exact afterFunctions.lookup _ _ held
  · exact (hasClasses_of_forall₂ classesHeld).mono toSixth.registry

/-- The making of a model either succeeds or fails for a reason that could not be known before, if
the schema is resolved and checking it adds no fault. -/
theorem build_eq_ok_or_unchecked {context : Context} (resolved : input.schema.IsResolved)
    (read : context.schema = some input.schema)
    (quiet : ((Phase.validate Lint.all).run context).context.faults = context.faults) :
    (∃ made, build language input = .ok made) ∨
      ∃ error, build language input = .error error ∧ error.IsUnchecked := by
  have passes : input.schema.Passes Lint.all := (Phase.faults_validate_eq_iff read).1 quiet
  have free (wanted : String) : (Name.Registry.empty input.schema.ns language.naming).isTaken
      { space := .directories, owner := "" } wanted = false := by
    rw [Bool.eq_false_iff]
    simp
  have guarded : FailsUnchecked (Model.service language input) _ :=
    failsUnchecked_service free resolved passes
  unfold build buildFrom
  cases ran : (Model.service language input).run
      { registry := Name.Registry.empty input.schema.ns language.naming, findings := [] } with
  | ok outcome => exact .inl ⟨_, rfl⟩
  | error error => exact .inr ⟨error, rfl, guarded error ran⟩

/-- What is known of a service whose metadata are those of the shop, once they have been read. -/
def shopContext : Context where
  input := { fileName := "Shop", documents := [], mapping := none, swagger := none }
  schema := some shop.schema
  service := none
  diagnostics := []

theorem isResolved_shop : shop.schema.IsResolved := by
  constructor <;> decide +kernel

theorem passes_shop : shop.schema.Passes Lint.all := by
  refine Schema.passes_all postOrder_shop ?_
  unfold Schema.Passes
  decide +kernel

theorem build_eq_ok_or_unchecked_shop :
    (∃ made, build TypeScript.language shop = .ok made) ∨
      ∃ error, build TypeScript.language shop = .error error ∧ error.IsUnchecked :=
  have read : shopContext.schema = some shop.schema := rfl
  build_eq_ok_or_unchecked isResolved_shop read
    ((Phase.faults_validate_eq_iff read).2 passes_shop)

end Model

end ODataClient
