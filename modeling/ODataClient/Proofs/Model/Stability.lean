import ODataClient.Proofs.Model.Whole
import ODataClient.Proofs.Name.Agreement

/-!
# Names that stay

Functions are named before anything else of their scope, and so are the classes of entity sets. So
both get names that depend on nothing but the names of the function imports or entity sets of the
schema, whatever else the schema declares.
-/

namespace ODataClient

namespace Build

variable {α β γ : Type} {start stop another : BuildState} {space : NameSpace}

/-- Steps that do what others do, seen in a certain way. -/
theorem run_mapM_of_run {step : α → Build β} {plain : α → Build γ} {view : β → γ} {items : List α}
    {results : List β}
    (each : ∀ item ∈ items, ∀ ⦃before after result⦄,
      (step item).run before = .ok (result, after) →
        (plain item).run before = .ok (view result, after))
    (ran : (items.mapM step).run start = .ok (results, stop)) :
    (items.mapM plain).run start = .ok (results.map view, stop) := by
  induction items generalizing start results with
  | nil =>
      obtain ⟨rfl, rfl⟩ := run_mapM_nil_eq_ok.1 ran
      rfl
  | cons item items ih =>
      obtain ⟨result, middle, rest, ranItem, ranItems, rfl⟩ := run_mapM_cons_eq_ok.1 ran
      have first := each item List.mem_cons_self ranItem
      have others := ih (fun next member => each next (List.mem_cons_of_mem item member)) ranItems
      exact run_mapM_cons_eq_ok.2 ⟨_, middle, _, first, others, rfl⟩

theorem map_eq_map_of_run {step : α → Build β} {view : β → γ} {expected : α → γ} {items : List α}
    {results : List β}
    (each : ∀ ⦃item before after result⦄, (step item).run before = .ok (result, after) →
      view result = expected item)
    (ran : (items.mapM step).run start = .ok (results, stop)) :
    results.map view = items.map expected := by
  induction items generalizing start results with
  | nil =>
      obtain ⟨rfl, -⟩ := run_mapM_nil_eq_ok.1 ran
      rfl
  | cons item items ih =>
      obtain ⟨result, middle, rest, ranItem, ranItems, rfl⟩ := run_mapM_cons_eq_ok.1 ran
      rw [List.map_cons, List.map_cons, each ranItem, ih ranItems]

/-- Requests for names of other spaces do not show. -/
theorem agreesOn_of_run {requests : List Name.Request} {names : List String}
    (elsewhere : ∀ request ∈ requests, request.slot.kind.space ≠ space)
    (ran : (requests.mapM name).run start = .ok (names, stop)) :
    start.registry.AgreesOn (·.space = space) stop.registry := by
  induction requests generalizing start names with
  | nil =>
      obtain ⟨-, rfl⟩ := run_mapM_nil_eq_ok.1 ran
      exact .refl _
  | cons request requests ih =>
      obtain ⟨given, middle, rest, ranName, ranRest, -⟩ := run_mapM_cons_eq_ok.1 ran
      obtain ⟨later, resolved, rfl⟩ := run_name_eq_ok.1 ranName
      have isElsewhere := elsewhere request List.mem_cons_self
      have elsewhereRest : ∀ other ∈ requests, other.slot.kind.space ≠ space :=
        fun other member => elsewhere other (List.mem_cons_of_mem request member)
      have toMiddle : start.registry.AgreesOn (·.space = space) later :=
        Name.Registry.agreesOn_of_resolve isElsewhere resolved
      exact toMiddle.trans (ih elsewhereRest ranRest)

/-- Requests for names of a space are answered alike by registries that agree on it. -/
theorem run_names_of_agreesOn {requests : List Name.Request} {names : List String}
    (agree : start.registry.AgreesOn (·.space = space) another.registry)
    (within : ∀ request ∈ requests, request.slot.kind.space = space)
    (ran : (requests.mapM name).run start = .ok (names, stop)) :
    ∃ last, (requests.mapM name).run another = .ok (names, last) := by
  induction requests generalizing start another names with
  | nil =>
      obtain ⟨rfl, -⟩ := run_mapM_nil_eq_ok.1 ran
      exact ⟨another, rfl⟩
  | cons request requests ih =>
      obtain ⟨given, middle, rest, ranName, ranRest, rfl⟩ := run_mapM_cons_eq_ok.1 ran
      obtain ⟨later, resolved, rfl⟩ := run_name_eq_ok.1 ranName
      have isWithin := within request List.mem_cons_self
      have withinRest : ∀ other ∈ requests, other.slot.kind.space = space :=
        fun other member => within other (List.mem_cons_of_mem request member)
      obtain ⟨registry, resolvedToo, agreeLater⟩ := agree.resolve isWithin resolved
      let next : BuildState := { another with registry }
      have ranToo : (name request).run another = .ok (given, next) :=
        run_name_eq_ok.2 ⟨registry, resolvedToo, rfl⟩
      have agreeNext : later.AgreesOn (·.space = space) next.registry := agreeLater
      obtain ⟨last, ranRestToo⟩ := ih agreeNext withinRest ranRest
      exact ⟨last, run_mapM_cons_eq_ok.2 ⟨given, next, rest, ranToo, ranRestToo, rfl⟩⟩

end Build

namespace Model

open Build

variable {language other : TargetLanguage} {input another : ModelInput}
  {complex : Dictionary ComplexNames} {start stop : BuildState} {service rebuilt : Service}
  {findings others : List Diagnostic}

/-- What is asked for to name the classes of entity sets. -/
def classRequests (sets : List String) : List Name.Request :=
  sets.map fun set => .entityClass set sets

/-- What is asked for to name functions. -/
def functionRequests (functions : List String) : List Name.Request :=
  functions.map .function

theorem space_of_mem_classRequests {sets : List String} {request : Name.Request}
    (member : request ∈ classRequests sets) : request.slot.kind.space = .types := by
  obtain ⟨set, -, rfl⟩ := List.mem_map.1 member
  rfl

theorem space_of_mem_functionRequests {functions : List String} {request : Name.Request}
    (member : request ∈ functionRequests functions) : request.slot.kind.space = .callables := by
  obtain ⟨function, -, rfl⟩ := List.mem_map.1 member
  rfl

theorem run_classRequests {classes : List (Schema.EntitySet × Schema.EntityType × String)}
    (ran : (entityClasses input).run start = .ok (classes, stop)) :
    ((classRequests (input.schema.entitySets.map (·.name))).mapM Build.name).run start =
      .ok (classes.map (·.2.2), stop) := by
  rw [classRequests, List.map_map, List.mapM_map]
  refine run_mapM_of_run (fun set _ before after entry ranSet => ?_) ran
  cases found : input.schema.findEntityType? set.type with
  | none =>
      simp only [found] at ranSet
      exact (run_fail_ne_ok ranSet).elim
  | some type =>
      simp only [found] at ranSet
      obtain ⟨className, named, ranName, ranSet⟩ := run_bind_eq_ok.1 ranSet
      obtain ⟨rfl, rfl⟩ := run_pure_eq_ok.1 ranSet
      exact ranName

theorem className_of_run {set : Schema.EntitySet} {type : Schema.EntityType} {className : String}
    {made : Service.Entity}
    (ran : (entity language input complex set type className).run start = .ok (made, stop)) :
    made.className = className := by
  obtain ⟨_, _, -, ran⟩ := run_bind_eq_ok.1 ran
  obtain ⟨_, _, -, ran⟩ := run_bind_eq_ok.1 ran
  obtain ⟨_, _, -, ran⟩ := run_bind_eq_ok.1 ran
  obtain ⟨rfl, -⟩ := run_pure_eq_ok.1 ran
  rfl

theorem functionName_of_run {source : Schema.FunctionImport} {functionName : String}
    {made : Service.FunctionImport}
    (ran : (functionImport language input complex source functionName).run start =
      .ok (made, stop)) : made.functionName = functionName := by
  obtain ⟨_, _, -, ran⟩ := run_bind_eq_ok.1 ran
  obtain ⟨_, _, -, ran⟩ := run_bind_eq_ok.1 ran
  obtain ⟨_, _, -, ran⟩ := run_bind_eq_ok.1 ran
  obtain ⟨rfl, -⟩ := run_pure_eq_ok.1 ran
  rfl

/-- Functions are named next to the directory of the service, and the classes of entity sets next to
these. -/
theorem run_names_of_run
    (ran : (Model.service language input).run start = .ok (service, stop)) :
    ∃ readable wanted directoryName first second third,
      (Build.name (.directory readable wanted)).run start = .ok (directoryName, first) ∧
      ((functionRequests (input.schema.functionImports.map (·.name))).mapM Build.name).run first =
        .ok (service.functionImports.map (·.functionName), second) ∧
      ((classRequests (input.schema.entitySets.map (·.name))).mapM Build.name).run second =
        .ok (service.entities.map (·.className), third) := by
  obtain ⟨_, directoryName, functionNames, classes, _, first, second, third, _, _, _, -,
    ranDirectory, ranNames, ranClasses, -, -, ranEntities, ranFunctions⟩ := run_service_eq_ok ran
  have sameClasses : service.entities.map (·.className) = classes.map (·.2.2) :=
    map_eq_map_of_run (fun _ _ _ _ ran => className_of_run ran) ranEntities
  have sameFunctions : service.functionImports.map (·.functionName) =
      (input.schema.functionImports.zip functionNames).map (·.2) :=
    map_eq_map_of_run (fun _ _ _ _ ran => functionName_of_run ran) ranFunctions
  have asMany : functionNames.length ≤ input.schema.functionImports.length :=
    Nat.le_of_eq (advances_functionNames ranNames).2.length_eq.symm
  refine ⟨_, _, directoryName, first, second, third, ranDirectory, ?_, ?_⟩
  · rw [sameFunctions, List.map_snd_zip asMany, functionRequests, List.map_map, List.mapM_map]
    exact ranNames
  · rw [sameClasses]
    exact run_classRequests ranClasses

/-- Functions and classes are called what the names of the function imports and of the entity sets
get from a registry that agrees with the one there was at first. -/
theorem run_requests_of_run {fresh : BuildState}
    (agree : ∀ covered, start.registry.AgreesOn covered fresh.registry)
    (ran : (Model.service language input).run start = .ok (service, stop)) :
    (∃ last, ((functionRequests (input.schema.functionImports.map (·.name))).mapM Build.name).run
      fresh = .ok (service.functionImports.map (·.functionName), last)) ∧
    (∃ last, ((classRequests (input.schema.entitySets.map (·.name))).mapM Build.name).run fresh =
      .ok (service.entities.map (·.className), last)) := by
  obtain ⟨readable, wanted, directoryName, first, second, third, ranDirectory, ranFunctions,
    ranClasses⟩ := run_names_of_run ran
  -- The directory is named in a space of its own, and functions are not named among types.
  have toFirst (space : NameSpace) (elsewhere : .directories ≠ space) :
      start.registry.AgreesOn (·.space = space) first.registry := by
    obtain ⟨_, resolved, rfl⟩ := run_name_eq_ok.1 ranDirectory
    refine Name.Registry.agreesOn_of_resolve ?_ resolved
    exact elsewhere
  have toSecond : first.registry.AgreesOn (·.space = .types) second.registry := by
    refine agreesOn_of_run (fun request member => ?_) ranFunctions
    rw [space_of_mem_functionRequests member]
    decide
  have functionsAgree := (toFirst .callables (by decide)).symm.trans (agree _)
  have classesAgree := ((toFirst .types (by decide)).trans toSecond).symm.trans (agree _)
  constructor
  · exact run_names_of_agreesOn functionsAgree (fun _ => space_of_mem_functionRequests)
      ranFunctions
  · exact run_names_of_agreesOn classesAgree (fun _ => space_of_mem_classRequests) ranClasses

/-- Classes and functions keep their names as long as entity sets and function imports keep
theirs, whatever else changes in a schema. -/
theorem names_eq_of_buildFrom {name otherName : String} {convention : NamingConvention}
    (built : buildFrom language input (.empty name convention) = .ok (service, findings))
    (builtToo : buildFrom other another (.empty otherName convention) = .ok (rebuilt, others)) :
    (another.schema.entitySets.map (·.name) = input.schema.entitySets.map (·.name) →
      rebuilt.entities.map (·.className) = service.entities.map (·.className)) ∧
    (another.schema.functionImports.map (·.name) = input.schema.functionImports.map (·.name) →
      rebuilt.functionImports.map (·.functionName) =
        service.functionImports.map (·.functionName)) := by
  unfold buildFrom at built builtToo
  obtain ⟨⟨made, stop⟩, ran, same⟩ := Outcome.map_eq_ok_iff.1 built
  obtain ⟨⟨madeToo, stopToo⟩, ranToo, sameToo⟩ := Outcome.map_eq_ok_iff.1 builtToo
  cases same
  cases sameToo
  let fresh : BuildState := { registry := .empty name convention, findings := [] }
  have agree (covered : Name.Scope → Prop) :
      (Name.Registry.empty otherName convention).AgreesOn covered fresh.registry :=
    Name.Registry.agreesOn_empty
  obtain ⟨⟨_, functions⟩, _, classes⟩ := run_requests_of_run (fun _ => .refl fresh.registry) ran
  obtain ⟨⟨_, functionsToo⟩, _, classesToo⟩ := run_requests_of_run agree ranToo
  constructor
  · intro sameSets
    rw [sameSets, classes] at classesToo
    exact (Prod.mk.inj (Except.ok.inj classesToo)).1.symm
  · intro sameFunctions
    rw [sameFunctions, functions] at functionsToo
    exact (Prod.mk.inj (Except.ok.inj functionsToo)).1.symm

/-- The metadata of a market. Its entity sets and function imports are called as those of a shop,
but nothing else is, and a complex type asks for the name of a class. -/
def market : ModelInput where
  schema :=
    { ns := "Market"
      namespaces := ["Market"]
      entityTypes := [
        { ns := "Market", name := "Deal", keys := ["Id"], label := none, navigation := []
          properties := [
            plainProperty "Id" "Edm.Guid", plainProperty "Terms" "Market.Orders"] }]
      complexTypes := [
        { ns := "Market", name := "Orders", properties := [plainProperty "Text" "Edm.String"] }]
      associations := []
      entitySets := [
        { name := "Orders", type := "Market.Deal", label := none },
        { name := "Lines", type := "Market.Deal", label := none }]
      functionImports := [
        { name := "Open", returnType := none, entitySet := none, httpMethod := "POST"
          label := none, parameters := [] },
        { name := "Home", returnType := some "Market.Orders", entitySet := none
          httpMethod := "GET", label := none, parameters := [] }] }
  fileName := "Market"
  mapping := none
  swagger := none

theorem orderedComplexTypes_market :
    orderedComplexTypes market.schema = .ok market.schema.complexTypes :=
  orderedComplexTypes_of_leaf rfl (by decide +kernel)

theorem names_eq_market : ∃ service rebuilt findings others,
    buildFrom TypeScript.language shop (.empty "Shop" TypeScript.naming) =
        .ok (service, findings) ∧
      buildFrom TypeScript.language market (.empty "Market" TypeScript.naming) =
        .ok (rebuilt, others) ∧
      rebuilt.complexTypes.map (·.typeName) = ["Orders_1"] ∧
      rebuilt.entities.map (·.className) = service.entities.map (·.className) ∧
      rebuilt.functionImports.map (·.functionName) =
        service.functionImports.map (·.functionName) := by
  have outline : (buildFrom TypeScript.language shop
      (.empty "Shop" TypeScript.naming)).toOption.map (fun made => made.2.length) = some 1 := by
    simp only [buildFrom, Model.service, orderedComplexTypes_shop]
    decide +kernel
  have outlineToo : (buildFrom TypeScript.language market
      (.empty "Market" TypeScript.naming)).toOption.map
        (fun made => made.1.complexTypes.map (·.typeName)) = some ["Orders_1"] := by
    simp only [buildFrom, Model.service, orderedComplexTypes_market]
    decide +kernel
  obtain ⟨⟨service, findings⟩, built, -⟩ := Outcome.exists_of_toOption outline
  obtain ⟨⟨rebuilt, others⟩, builtToo, types⟩ := Outcome.exists_of_toOption outlineToo
  obtain ⟨classes, functions⟩ := names_eq_of_buildFrom built builtToo
  exact ⟨service, rebuilt, findings, others, built, builtToo, types, classes (by decide),
    functions (by decide)⟩

end Model

end ODataClient
