import ODataClient.Proofs.Pipeline.Mapped

/-!
# The course of the work

What has been done in the course of the work on a service is a beginning of what there is to do, up
to the first failure. What was known before is still known, and findings are only added.
-/

namespace ODataClient

section Courses

/-- The context behind what has been done. -/
def reached (start : Context) (trace : List (Event × Context)) : Context :=
  (trace.getLast?.map Prod.snd).getD start

@[simp]
theorem reached_nil (start : Context) : reached start [] = start :=
  rfl

@[simp]
theorem reached_cons (start : Context) (entry : Event × Context) (trace : List (Event × Context)) :
    reached start (entry :: trace) = reached entry.2 trace := by
  rw [reached, reached, List.getLast?_cons]
  cases trace.getLast? <;> rfl

/-- A run is the record of steps that were carried out in order, each from the context that the one
before has left, until one of them failed or all were done. -/
structure Run.Records (run : Run) (start : Context) (steps : List Step) : Prop where
  events : run.trace.map Prod.fst = (steps.take run.trace.length).map Step.event
  moves : ∀ before entry after, run.trace = before ++ entry :: after →
    ∃ step, steps[before.length]? = some step ∧ step.event = entry.1 ∧
      step.action (reached start before) =
        { context := entry.2, failure := if after = [] then run.failure else none }
  complete : run.failure = none → run.trace.length = steps.length
  failed : run.failure ≠ none → run.trace ≠ []
  context : run.context = reached start run.trace

theorem Step.records_runAll (start : Context) (steps : List Step) :
    (runAll start steps).Records start steps := by
  induction steps generalizing start with
  | nil =>
      refine ⟨rfl, ?_, fun _ => rfl, fun failed => absurd rfl failed, rfl⟩
      intro before entry after split
      cases before <;> cases split
  | cons step steps ih =>
      rw [runAll]
      cases failed : (step.action start).failure with
      | some failure =>
          refine ⟨rfl, ?_, by simp, by simp, rfl⟩
          intro before entry after split
          obtain ⟨rfl, rfl, rfl⟩ : before = [] ∧ entry = (step.event, (step.action start).context) ∧
              after = [] := by
            cases before <;> simp_all
          exact ⟨step, rfl, rfl, by simp [← failed]⟩
      | none =>
          have rest := ih (step.action start).context
          refine ⟨by simp [rest.events], ?_, by simpa using rest.complete, by simp, ?_⟩
          · intro before entry after split
            cases before with
            | nil =>
                obtain ⟨rfl, rfl⟩ := List.cons.inj split
                refine ⟨step, rfl, rfl, ?_⟩
                -- if nothing was done afterwards, nothing can have failed there
                have later : (if (runAll (step.action start).context steps).trace = [] then
                    (runAll (step.action start).context steps).failure else none) = none := by
                  split
                  · next nothing => exact Classical.not_not.1 fun failed => rest.failed failed nothing
                  · rfl
                rw [later, ← failed]
                rfl
            | cons first before =>
                obtain ⟨rfl, behind⟩ := List.cons.inj split
                simpa using rest.moves before entry after behind
          · rw [reached_cons]
            exact rest.context

/-- What no step breaks holds between any two contexts of a run, the earlier one first. -/
theorem Step.pairwise_runAll (Leads : Context → Context → Prop)
    (trans : ∀ first second third, Leads first second → Leads second third → Leads first third)
    {steps : List Step}
    (step : ∀ step ∈ steps, ∀ context, Leads context (step.action context).context)
    (start : Context) :
    (start :: (runAll start steps).trace.map Prod.snd).Pairwise Leads := by
  induction steps generalizing start with
  | nil => simp [runAll]
  | cons first steps ih =>
      obtain ⟨head, others⟩ := List.forall_mem_cons.1 step
      have begins := head start
      rw [runAll]
      cases (first.action start).failure with
      | some failure => simpa using begins
      | none =>
          have rest := ih others (first.action start).context
          refine List.pairwise_cons.2 ⟨List.forall_mem_cons.2 ⟨begins, ?_⟩, rest⟩
          intro later member
          exact trans _ _ _ begins ((List.pairwise_cons.1 rest).1 later member)

end Courses

namespace Pipeline

/-- What happens around and in a phase if nothing fails. -/
def phaseEvents (plugins : List String) (phase : String) : List Event :=
  (plugins.map fun plugin => .before plugin phase) ++
    .phase phase :: plugins.map fun plugin => .after plugin phase

/-- What happens in the whole course of the work if nothing fails. -/
def events (pipeline : Pipeline) : List Event :=
  (pipeline.phases.map Phase.name).flatMap (phaseEvents (pipeline.plugins.map Plugin.name))

/-- What there is to do for phases: for each of them, all plugins do what they do before it, then the
phase is carried out, and then all plugins do what they do after it. -/
def course (plugins : List Plugin) : List Phase → List Step
  | [] => []
  | phase :: phases =>
    (plugins.map fun plugin => ⟨.before plugin.name phase.name, plugin.before phase.name⟩) ++
      [⟨.phase phase.name, phase.run⟩] ++
      (plugins.map fun plugin => ⟨.after plugin.name phase.name, plugin.after phase.name⟩) ++
      course plugins phases

/-- What is done at an event. -/
inductive Performs (pipeline : Pipeline) : Event → (Context → Outcome) → Prop
  | before {plugin : Plugin} {phase : Phase} (isPlugin : plugin ∈ pipeline.plugins)
      (isPhase : phase ∈ pipeline.phases) :
      Performs pipeline (.before plugin.name phase.name) (plugin.before phase.name)
  | phase {phase : Phase} (isPhase : phase ∈ pipeline.phases) :
      Performs pipeline (.phase phase.name) phase.run
  | after {plugin : Plugin} {phase : Phase} (isPlugin : plugin ∈ pipeline.plugins)
      (isPhase : phase ∈ pipeline.phases) :
      Performs pipeline (.after plugin.name phase.name) (plugin.after phase.name)

variable {pipeline : Pipeline}

theorem flatMap_phaseSteps (phases : List Phase) :
    phases.flatMap pipeline.phaseSteps = course pipeline.plugins phases := by
  induction phases with
  | nil => rfl
  | cons phase phases ih =>
      rw [List.flatMap_cons, ih, phaseSteps, course, List.append_cons]

theorem map_event_course : (course pipeline.plugins pipeline.phases).map Step.event =
    pipeline.events := by
  rw [events]
  induction pipeline.phases with
  | nil => rfl
  | cons phase phases ih =>
      rw [List.map_cons, List.flatMap_cons, ← ih]
      simp [course, phaseEvents, Function.comp_def]

theorem performs_of_mem_course {step : Step}
    (member : step ∈ course pipeline.plugins pipeline.phases) :
    pipeline.Performs step.event step.action := by
  rw [← flatMap_phaseSteps] at member
  obtain ⟨phase, isPhase, isStep⟩ := List.mem_flatMap.1 member
  rcases List.mem_append.1 isStep with earlier | rest
  · obtain ⟨plugin, isPlugin, rfl⟩ := List.mem_map.1 earlier
    exact .before isPlugin isPhase
  · rcases List.mem_cons.1 rest with rfl | later
    · exact .phase isPhase
    · obtain ⟨plugin, isPlugin, rfl⟩ := List.mem_map.1 later
      exact .after isPlugin isPhase

end Pipeline

namespace Phase

/-- Reading, checking and building. -/
inductive IsStandard : Phase → Prop
  | parse : IsStandard .parse
  | validate (lints : List Lint) : IsStandard (.validate lints)
  | build (language : TargetLanguage) : IsStandard (.build language)

variable {context : Context} {lints : List Lint} {language : TargetLanguage} {phase : Phase}

theorem run_parse_of_failure (failed : (parse.run context).failure ≠ none) :
    (parse.run context).context = context := by
  simp only [parse] at failed ⊢
  cases read : Schema.parse context.input.documents with
  | error error => rfl
  | ok schema => simp [read, Outcome.proceed] at failed

theorem run_build_of_failure (failed : ((build language).run context).failure ≠ none) :
    ((build language).run context).context = context := by
  cases read : context.schema with
  | none => simp only [build, Context.requireSchema, read, Outcome.stop]
  | some schema =>
      simp only [build, Context.requireSchema, read] at failed ⊢
      split at failed
      · rfl
      · contradiction

theorem context_validate : ∃ findings, ((validate lints).run context).context =
    { context with diagnostics := context.diagnostics ++ findings } := by
  obtain read | ⟨schema, read⟩ := Option.eq_none_or_eq_some context.schema
  · have stopped : (validate lints).run context = .stop context .missingSchema := by
      simp only [validate, Context.requireSchema, read]
    exact ⟨[], by rw [stopped, List.append_nil, Outcome.stop]⟩
  · refine ⟨lints.flatMap (·.check schema), ?_⟩
    simp only [validate, Context.requireSchema, read]
    split <;> rfl

/-- No phase takes a finding back. -/
theorem IsStandard.diagnostics_grow (standard : phase.IsStandard) (context : Context) :
    context.diagnostics <+: (phase.run context).context.diagnostics := by
  cases standard with
  | parse =>
      simp only [Phase.parse]
      split <;> exact List.prefix_rfl
  | validate lints =>
      obtain ⟨findings, same⟩ := @context_validate context lints
      rw [same]
      exact List.prefix_append _ _
  | build language =>
      by_cases failed : ((Phase.build language).run context).failure = none
      · cases read : context.schema with
        | none => simp [Phase.build, Context.requireSchema, read, Outcome.stop] at failed
        | some schema =>
            obtain ⟨service, findings, -, same⟩ := run_build read failed
            rw [same]
            exact List.prefix_append _ _
      · have kept := congrArg Context.diagnostics (run_build_of_failure failed)
        exact kept ▸ List.prefix_rfl

/-- What may be left behind by something that is done from a context. -/
structure Leaves (event : Event) (context : Context) (outcome : Outcome) : Prop where
  parse : event = .phase "parse" → outcome.failure ≠ none → outcome.context = context
  build : event = .phase "build" → outcome.failure ≠ none → outcome.context = context
  validate : event = .phase "validate" → ∃ findings, outcome.context =
    { context with diagnostics := context.diagnostics ++ findings }

theorem IsStandard.leaves (standard : phase.IsStandard) (context : Context) :
    Leaves (.phase phase.name) context (phase.run context) := by
  cases standard with
  | parse => exact ⟨fun _ => run_parse_of_failure, by simp [Phase.parse], by simp [Phase.parse]⟩
  | validate lints =>
      exact ⟨by simp [Phase.validate], by simp [Phase.validate], fun _ => context_validate⟩
  | build language =>
      exact ⟨by simp [Phase.build], fun _ => run_build_of_failure, by simp [Phase.build]⟩

end Phase

namespace Plugin

/-- Whether all that has been found out about a service is left as it was. -/
structure KeepsFindings (action : Context → Outcome) : Prop where
  schema : ∀ context, (action context).context.schema = context.schema
  service : ∀ context, (action context).context.service = context.service
  diagnostics : ∀ context, (action context).context.diagnostics = context.diagnostics

/-- A plugin that changes nothing but what is given about a service. -/
def Observes (plugin : Plugin) : Prop :=
  ∀ phase, KeepsFindings (plugin.before phase) ∧ KeepsFindings (plugin.after phase)

theorem keepsFindings_idle (phase : String) : KeepsFindings (idle phase) :=
  ⟨fun _ => rfl, fun _ => rfl, fun _ => rfl⟩

theorem observes_serviceMapping (mappings : ServiceMappings) :
    (serviceMapping mappings).Observes := by
  refine fun phase => ⟨?_, keepsFindings_idle phase⟩
  constructor <;>
  · intro context
    simp only [serviceMapping]
    split
    · rfl
    · split <;> rfl

/-- A plugin that only takes notes. -/
def tracing : Plugin where
  name := "tracing"
  before := idle
  after := idle

theorem observes_tracing : tracing.Observes :=
  fun phase => ⟨keepsFindings_idle phase, keepsFindings_idle phase⟩

/-- A plugin that calls a service by another name once its documents have been read. -/
def relabelling (name : String) : Plugin where
  name := "relabelling"
  before := idle
  after phase context :=
    if phase = "parse" then
      .proceed { context with input := { context.input with fileName := name } }
    else .proceed context

theorem observes_relabelling (name : String) : (relabelling name).Observes := by
  refine fun phase => ⟨keepsFindings_idle phase, ?_⟩
  constructor <;>
  · intro context
    simp only [relabelling]
    split <;> rfl

/-- A plugin that ends the work once there is a schema. -/
def impatient : Plugin where
  name := "impatient"
  before := idle
  after _phase context :=
    if context.schema.isSome then .stop context (.refused "no time left") else .proceed context

theorem observes_impatient : impatient.Observes := by
  refine fun phase => ⟨keepsFindings_idle phase, ?_⟩
  constructor <;>
  · intro context
    simp only [impatient]
    split <;> rfl

end Plugin

namespace Pipeline

variable {pipeline : Pipeline}

/-- How the work on a service goes, with whatever plugins around its phases. What has been done is a
beginning of what there is to do, each step starts from what the one before has left, and only the
last one can have failed. A reading or building that fails changes nothing, and a checking only adds
findings. If plugins leave them alone, findings are only added in the whole course of the work. -/
structure Unfolds (pipeline : Pipeline) (start : Context) : Prop where
  records : (pipeline.run start).Records start (course pipeline.plugins pipeline.phases)
  begins : (pipeline.run start).trace.map Prod.fst <+: pipeline.events
  completes : (pipeline.run start).failure = none →
    (pipeline.run start).trace.map Prod.fst = pipeline.events
  performs : ∀ before event context after,
    (pipeline.run start).trace = before ++ (event, context) :: after →
      ∃ action, pipeline.Performs event action ∧ action (reached start before) = {
        context, failure := if after = [] then (pipeline.run start).failure else none }
  leaves : ∀ before phase context after,
    (pipeline.run start).trace = before ++ (.phase phase, context) :: after →
      Phase.Leaves (.phase phase) (reached start before) {
        context, failure := if after = [] then (pipeline.run start).failure else none }
  grows : (∀ plugin ∈ pipeline.plugins, plugin.Observes) →
    (start :: (pipeline.run start).trace.map Prod.snd).Pairwise fun earlier later =>
      earlier.diagnostics <+: later.diagnostics

theorem records_run (start : Context) :
    (pipeline.run start).Records start (course pipeline.plugins pipeline.phases) := by
  rw [run, steps, flatMap_phaseSteps]
  exact Step.records_runAll start _

theorem performs_of_trace {start context : Context} {event : Event}
    {before after : List (Event × Context)}
    (split : (pipeline.run start).trace = before ++ (event, context) :: after) :
    ∃ action, pipeline.Performs event action ∧ action (reached start before) = {
      context, failure := if after = [] then (pipeline.run start).failure else none } := by
  obtain ⟨step, isStep, rfl, moved⟩ := (records_run start).moves before _ after split
  exact ⟨step.action, performs_of_mem_course (List.mem_of_getElem? isStep), moved⟩

theorem diagnostics_grow (standard : ∀ phase ∈ pipeline.phases, phase.IsStandard)
    (observes : ∀ plugin ∈ pipeline.plugins, plugin.Observes) {event : Event}
    {action : Context → Outcome} (performs : pipeline.Performs event action) (context : Context) :
    context.diagnostics <+: (action context).context.diagnostics := by
  cases performs with
  | @before plugin phase isPlugin _ =>
      have kept := ((observes plugin isPlugin phase.name).1).diagnostics context
      exact kept ▸ List.prefix_rfl
  | phase isPhase => exact (standard _ isPhase).diagnostics_grow context
  | @after plugin phase isPlugin _ =>
      have kept := ((observes plugin isPlugin phase.name).2).diagnostics context
      exact kept ▸ List.prefix_rfl

theorem unfolds_of_isStandard (standard : ∀ phase ∈ pipeline.phases, phase.IsStandard)
    (start : Context) : pipeline.Unfolds start where
  records := records_run start
  begins := by
    rw [(records_run start).events, List.map_take, map_event_course]
    exact List.take_prefix _ _
  completes := by
    intro succeeded
    rw [(records_run start).events, (records_run start).complete succeeded, List.take_length,
      map_event_course]
  performs _ _ _ _ := performs_of_trace
  leaves := by
    intro before name context after split
    obtain ⟨action, performs, moved⟩ := performs_of_trace split
    rw [← moved]
    cases performs with
    | phase isPhase => exact (standard _ isPhase).leaves _
  grows := by
    intro observes
    rw [run, steps, flatMap_phaseSteps]
    refine Step.pairwise_runAll (fun earlier later => earlier.diagnostics <+: later.diagnostics)
      (fun _ _ _ => List.IsPrefix.trans) ?_ start
    intro step member
    exact diagnostics_grow standard observes (performs_of_mem_course member)

/-- The plugins are asked after the reading too: one gives the service another name there, and the
next one ends the work. -/
theorem unfolds_impatient :
    let pipeline : Pipeline := {
      phases := [.parse, .validate Lint.all, .build TypeScript.language, .validate []]
      plugins := [.tracing, .serviceMapping [], .relabelling "Store", .impatient] }
    let start : Context := .start {
      fileName := "Shop"
      documents := [⟨"Shop.edmx", "<E><DataServices><Schema Namespace=\"North\"/></DataServices></E>"⟩]
      mapping := none
      swagger := none }
    let run := pipeline.run start
    run.trace.map Prod.fst = [.before "tracing" "parse", .before "service-mapping" "parse",
      .before "relabelling" "parse", .before "impatient" "parse", .phase "parse",
      .after "tracing" "parse", .after "service-mapping" "parse", .after "relabelling" "parse",
      .after "impatient" "parse"] ∧
    run.context.input.fileName = "Store" ∧
    run.failure.map Failure.message = some "no time left" ∧
    pipeline.Unfolds start ∧
      (start :: run.trace.map Prod.snd).Pairwise fun earlier later =>
        earlier.diagnostics <+: later.diagnostics := by
  intro pipeline start run
  have standard : ∀ phase ∈ pipeline.phases, phase.IsStandard := by
    simp only [pipeline, List.forall_mem_cons]
    exact ⟨.parse, .validate _, .build _, .validate _, by simp⟩
  have observes : ∀ plugin ∈ pipeline.plugins, plugin.Observes := by
    simp only [pipeline, List.forall_mem_cons]
    exact ⟨Plugin.observes_tracing, Plugin.observes_serviceMapping _,
      Plugin.observes_relabelling _, Plugin.observes_impatient, by simp⟩
  have unfolds := unfolds_of_isStandard standard start
  exact ⟨by decide +kernel, by decide +kernel, by decide +kernel, unfolds, unfolds.grows observes⟩

end Pipeline

end ODataClient
