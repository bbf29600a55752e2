import ODataClient.Pipeline.Phase

/-!
# The work on a service as a whole

Phases are carried out in order. Plugins look at the context, or change it, before and after each
phase. The first failure ends the work.
-/

namespace ODataClient

/-- Work to be done around phases. -/
structure Plugin where
  name : String
  /-- What is done before the phase with the given name. -/
  before : (phase : String) → Context → Outcome
  /-- What is done after the phase with the given name. -/
  after : (phase : String) → Context → Outcome

namespace Plugin

def idle (_phase : String) (context : Context) : Outcome := .proceed context

/-- Looks up what has been chosen for the service before its model is built, unless that has been
given already. -/
def serviceMapping (mappings : ServiceMappings) : Plugin where
  name := "service-mapping"
  before phase context :=
    if phase ≠ "build" ∨ context.input.mapping.isSome then .proceed context
    else
      match context.requireSchema with
      | .error failure => .stop context failure
      | .ok schema =>
        let mapping := mappings.lookup? context.input.fileName schema.ns
        .proceed { context with input := { context.input with mapping } }
  after := idle

end Plugin

/-- The phases of the work on a service and the plugins around them. -/
structure Pipeline where
  phases : List Phase
  plugins : List Plugin

/-- One thing that is done in the course of the work. -/
inductive Event where
  | before (plugin phase : String)
  | phase (name : String)
  | after (plugin phase : String)
deriving DecidableEq, Repr

/-- One thing to be done in the course of the work. -/
structure Step where
  event : Event
  action : Context → Outcome

/-- What came of the work on a service. -/
structure Run where
  /-- What was done, with the context behind it. If the work failed, that was in the last. -/
  trace : List (Event × Context)
  context : Context
  failure : Option Failure

/-- Carries out steps until one of them fails. -/
def Step.runAll (context : Context) : List Step → Run
  | [] => { trace := [], context, failure := none }
  | step :: steps =>
    let outcome := step.action context
    let done := (step.event, outcome.context)
    match outcome.failure with
    | some failure => { trace := [done], context := outcome.context, failure := some failure }
    | none =>
      let rest := runAll outcome.context steps
      { rest with trace := done :: rest.trace }

namespace Pipeline

/-- Reading, checking by all lints, and building, without plugins. -/
def standard (language : TargetLanguage) : Pipeline where
  phases := [.parse, .validate Lint.all, .build language]
  plugins := []

variable (pipeline : Pipeline)

/-- The steps around and in a phase. -/
def phaseSteps (phase : Phase) : List Step :=
  (pipeline.plugins.map fun plugin => ⟨.before plugin.name phase.name, plugin.before phase.name⟩) ++
    ⟨.phase phase.name, phase.run⟩ ::
    pipeline.plugins.map fun plugin => ⟨.after plugin.name phase.name, plugin.after phase.name⟩

def steps : List Step := pipeline.phases.flatMap pipeline.phaseSteps

def run (context : Context) : Run := Step.runAll context pipeline.steps

/-- The model of a service and the findings about it. -/
def model (input : ServiceInput) : Except Failure (Service × List Diagnostic) :=
  let run := pipeline.run (.start input)
  match run.failure with
  | some failure => .error failure
  | none => run.context.takeService.map fun (service, context) => (service, context.diagnostics)

end Pipeline

end ODataClient
