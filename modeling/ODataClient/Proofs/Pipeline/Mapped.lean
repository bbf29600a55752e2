import ODataClient.Generation.Plan
import ODataClient.Proofs.Pipeline.Standard

/-!
# The standard work with mappings

Between checking and building, what has been chosen for the service is looked up. Apart from that,
clients are generated by the standard work on a service.
-/

namespace ODataClient

namespace Outcome

/-- Goes on unless the work has ended. -/
def andThen (outcome : Outcome) (next : Context → Outcome) : Outcome :=
  match outcome.failure with
  | some _ => outcome
  | none => next outcome.context

variable {context : Context} {failure : Failure} {next : Context → Outcome}

@[simp]
theorem proceed_andThen : (proceed context).andThen next = next context :=
  rfl

@[simp]
theorem stop_andThen : (stop context failure).andThen next = stop context failure :=
  rfl

@[simp]
theorem andThen_proceed (outcome : Outcome) : outcome.andThen proceed = outcome := by
  obtain ⟨context, failure⟩ := outcome
  cases failure <;> rfl

end Outcome

/-- What a run comes to, whatever was done on the way. -/
def Run.outcome (run : Run) : Outcome where
  context := run.context
  failure := run.failure

namespace Step

variable {context : Context}

@[simp]
theorem outcome_runAll_nil : (runAll context []).outcome = .proceed context :=
  rfl

@[simp]
theorem outcome_runAll_cons {step : Step} {steps : List Step} :
    (runAll context (step :: steps)).outcome =
      (step.action context).andThen fun next => (runAll next steps).outcome := by
  simp only [runAll, Outcome.andThen]
  cases failed : (step.action context).failure with
  | some failure => simp only [Run.outcome, ← failed]
  | none => rfl

end Step

/-- What is given about a service, with what is chosen for it unless that was given. -/
def ServiceInput.mappedBy (input : ServiceInput) (mappings : ServiceMappings) (ns : String) :
    ServiceInput :=
  { input with mapping := input.mapping.or (mappings.lookup? input.fileName ns) }

namespace Plugin

variable {mappings : ServiceMappings} {context : Context} {schema : Schema}

theorem before_serviceMapping_of_ne {phase : String} (other : phase ≠ "build") :
    (serviceMapping mappings).before phase context = .proceed context := by
  simp [serviceMapping, other]

theorem before_serviceMapping_build (read : context.schema = some schema) :
    (serviceMapping mappings).before "build" context =
      .proceed { context with input := context.input.mappedBy mappings schema.ns } := by
  obtain ⟨⟨fileName, documents, mapping, swagger⟩, _, service, diagnostics⟩ := context
  cases mapping with
  | some mapping => simp [serviceMapping, ServiceInput.mappedBy]
  | none =>
      obtain rfl : _ = some schema := read
      simp [serviceMapping, Context.requireSchema, ServiceInput.mappedBy]

end Plugin

namespace Pipeline

variable {mappings : ServiceMappings} {input other : ServiceInput} {schema : Schema}
  {service : Service} {findings : List Diagnostic}

theorem model_eq_of_outcome {pipeline further : Pipeline}
    (same : (pipeline.run (.start input)).outcome = (further.run (.start other)).outcome) :
    pipeline.model input = further.model other := by
  obtain ⟨context, failure⟩ := Outcome.mk.inj same
  simp only [model, context, failure]

theorem model_of_outcome_stop {pipeline : Pipeline} {context : Context} {failure : Failure}
    (stopped : (pipeline.run (.start input)).outcome = .stop context failure) :
    pipeline.model input = .error failure := by
  have failed : (pipeline.run (.start input)).failure = some failure :=
    congrArg Outcome.failure stopped
  simp only [model, failed]

theorem outcome_generationPipeline (context : Context) :
    ((generationPipeline mappings).run context).outcome =
      (Phase.parse.run context).andThen fun read =>
        ((Phase.validate Lint.all).run read).andThen fun checked =>
          ((Plugin.serviceMapping mappings).before "build" checked).andThen
            (Phase.build TypeScript.language).run := by
  have ran : (generationPipeline mappings).run context =
      let plugin := Plugin.serviceMapping mappings
      Step.runAll context [
        ⟨.before plugin.name "parse", plugin.before "parse"⟩,
        ⟨.phase "parse", Phase.parse.run⟩,
        ⟨.after plugin.name "parse", Outcome.proceed⟩,
        ⟨.before plugin.name "validate", plugin.before "validate"⟩,
        ⟨.phase "validate", (Phase.validate Lint.all).run⟩,
        ⟨.after plugin.name "validate", Outcome.proceed⟩,
        ⟨.before plugin.name "build", plugin.before "build"⟩,
        ⟨.phase "build", (Phase.build TypeScript.language).run⟩,
        ⟨.after plugin.name "build", Outcome.proceed⟩] :=
    rfl
  have parseBegins (context : Context) :
      (Plugin.serviceMapping mappings).before "parse" context = .proceed context :=
    Plugin.before_serviceMapping_of_ne (by decide)
  have checkBegins (context : Context) :
      (Plugin.serviceMapping mappings).before "validate" context = .proceed context :=
    Plugin.before_serviceMapping_of_ne (by decide)
  simp [ran, parseBegins, checkBegins]

theorem outcome_standard (language : TargetLanguage) (context : Context) :
    ((standard language).run context).outcome =
      (Phase.parse.run context).andThen fun read =>
        ((Phase.validate Lint.all).run read).andThen (Phase.build language).run := by
  have ran : (standard language).run context =
      Step.runAll context [
        ⟨.phase "parse", Phase.parse.run⟩,
        ⟨.phase "validate", (Phase.validate Lint.all).run⟩,
        ⟨.phase "build", (Phase.build language).run⟩] :=
    rfl
  simp [ran]

/-- Once the documents have been read, generation goes on like the standard work on the service with
what is chosen for it. -/
theorem model_generationPipeline (accepted : Schema.parse input.documents = .ok schema) :
    (generationPipeline mappings).model input =
      (standard TypeScript.language).model (input.mappedBy mappings schema.ns) := by
  let read (given : ServiceInput) : Context := { Context.start given with schema := some schema }
  let found := Lint.all.flatMap (·.check schema)
  let checked (given : ServiceInput) : Context := { read given with diagnostics := found }
  let mapped := input.mappedBy mappings schema.ns
  have parsed (given : ServiceInput) (same : given.documents = input.documents) :
      Phase.parse.run (.start given) = .proceed (read given) := by
    simp only [Phase.parse, Context.start, same, accepted, read]
  have validated (given : ServiceInput) : (Phase.validate Lint.all).run (read given) =
      if (checked given).faults.isEmpty then .proceed (checked given)
      else .stop (checked given) (.invalid (checked given).faults) :=
    rfl
  by_cases clean : (found.filter Diagnostic.isError).isEmpty = true
  · have passed (given : ServiceInput) :
        (Phase.validate Lint.all).run (read given) = .proceed (checked given) :=
      (validated given).trans (if_pos clean)
    apply model_eq_of_outcome
    rw [outcome_generationPipeline, outcome_standard, parsed input rfl, parsed mapped rfl]
    simp only [Outcome.proceed_andThen, passed]
    have read : (checked input).schema = some schema := rfl
    rw [Plugin.before_serviceMapping_build read]
    rfl
  · have stopped (given : ServiceInput) : (Phase.validate Lint.all).run (read given) =
        .stop (checked given) (.invalid (found.filter Diagnostic.isError)) :=
      (validated given).trans (if_neg clean)
    have generation : (generationPipeline mappings).model input =
        .error (.invalid (found.filter Diagnostic.isError)) := by
      apply model_of_outcome_stop
      rw [outcome_generationPipeline, parsed input rfl, Outcome.proceed_andThen, stopped,
        Outcome.stop_andThen]
    have plain : (standard TypeScript.language).model mapped =
        .error (.invalid (found.filter Diagnostic.isError)) := by
      apply model_of_outcome_stop
      rw [outcome_standard, parsed mapped rfl, Outcome.proceed_andThen, stopped,
        Outcome.stop_andThen]
    rw [generation, plain]

/-- What is generated is built of the schema that the documents hold, under the names that were
chosen for the service. -/
theorem model_generationPipeline_eq_ok_iff :
    (generationPipeline mappings).model input = .ok (service, findings) ↔
      ∃ schema, IsBuilt TypeScript.language (input.mappedBy mappings schema.ns) schema service
        findings := by
  constructor
  · intro done
    cases accepted : Schema.parse input.documents with
    | error error =>
        have refused : Phase.parse.run (.start input) = .stop (.start input) (.schema error) := by
          simp only [Phase.parse, Context.start, accepted]
        have ended : ((generationPipeline mappings).run (.start input)).outcome =
            .stop (.start input) (.schema error) := by
          rw [outcome_generationPipeline, refused, Outcome.stop_andThen]
        rw [model_of_outcome_stop ended] at done
        cases done
    | ok schema =>
        rw [model_generationPipeline accepted] at done
        obtain ⟨other, isBuilt⟩ := isBuilt_of_model done
        obtain rfl := Except.ok.inj (accepted.symm.trans isBuilt.accepted)
        exact ⟨schema, isBuilt⟩
  · rintro ⟨schema, isBuilt⟩
    have accepted : Schema.parse input.documents = .ok schema := isBuilt.accepted
    rw [model_generationPipeline accepted]
    exact model_of_isBuilt isBuilt

end Pipeline

end ODataClient
