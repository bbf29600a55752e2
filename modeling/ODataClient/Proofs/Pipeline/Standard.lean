import ODataClient.Pipeline.Basic

/-!
# The standard work on a service

What has happened when a model comes out of the standard phases: a schema has been read from the
documents, no lint has found a fault in it, and the model has been built of it.
-/

namespace ODataClient

/-- Whether no finding of the given lints is a fault. -/
def Schema.Passes (schema : Schema) (lints : List Lint) : Prop :=
  ∀ lint ∈ lints, ∀ finding ∈ lint.check schema, finding.isError = false

theorem Schema.passes_all {schema : Schema} {order : List String}
    (ordered : (ComplexGraph.ofSchema schema).postOrder = .ok order)
    (others : schema.Passes Lint.all.tail) : schema.Passes Lint.all := by
  have cycle : Lint.complexTypeCycle.check schema = [] := by
    simp only [Lint.complexTypeCycle, ordered]
  intro lint isLint
  rcases List.mem_cons.1 isLint with rfl | isLater
  · simp [cycle]
  · exact others lint isLater

theorem Phase.faults_validate_eq_iff {context : Context} {schema : Schema} {lints : List Lint}
    (read : context.schema = some schema) :
    ((validate lints).run context).context.faults = context.faults ↔ schema.Passes lints := by
  have checked : ((validate lints).run context).context.faults = context.faults ++
      (lints.flatMap (·.check schema)).filter Diagnostic.isError := by
    simp only [validate, Context.requireSchema, read]
    split <;> simp [Outcome.proceed, Outcome.stop, Context.faults]
  rw [checked, List.append_right_eq_self, List.filter_eq_nil_iff]
  simp only [List.mem_flatMap, Bool.not_eq_true]
  constructor
  · intro clean lint isLint finding found
    exact clean finding ⟨lint, isLint, found⟩
  · rintro passes finding ⟨lint, isLint, found⟩
    exact passes lint isLint finding found

/-- A first step that does not fail leaves the rest to those after it. -/
theorem Step.runAll_cons {context : Context} {event : Event} {action : Context → Outcome}
    {steps : List Step} (done : (runAll context (⟨event, action⟩ :: steps)).failure = none) :
    (action context).failure = none ∧
      (runAll (action context).context steps).failure = none ∧
      (runAll context (⟨event, action⟩ :: steps)).context =
        (runAll (action context).context steps).context := by
  rw [runAll] at done ⊢
  cases failed : (action context).failure with
  | some failure => simp [failed] at done
  | none =>
      simp only [failed] at done
      exact ⟨rfl, done, rfl⟩

namespace Phase

variable {context : Context} {schema : Schema} {lints : List Lint} {language : TargetLanguage}

theorem run_parse (done : (parse.run context).failure = none) :
    ∃ schema, Schema.parse context.input.documents = .ok schema ∧
      (parse.run context).context = { context with schema := some schema } := by
  simp only [parse] at done ⊢
  cases accepted : Schema.parse context.input.documents with
  | error error => simp [accepted, Outcome.stop] at done
  | ok schema => exact ⟨schema, rfl, rfl⟩

theorem run_validate (read : context.schema = some schema)
    (done : ((validate lints).run context).failure = none) :
    ((validate lints).run context).context =
        { context with diagnostics := context.diagnostics ++ lints.flatMap (·.check schema) } ∧
      ((validate lints).run context).context.faults = [] := by
  simp only [validate, Context.requireSchema, read] at done ⊢
  split at done
  · next clean =>
    rw [if_pos clean]
    exact ⟨rfl, List.isEmpty_iff.1 clean⟩
  · contradiction

theorem run_build (read : context.schema = some schema)
    (done : ((build language).run context).failure = none) :
    ∃ service findings, Model.build language
        { schema
          fileName := context.input.fileName
          mapping := context.input.mapping
          swagger := context.input.swagger } = .ok (service, findings) ∧
      ((build language).run context).context = { context with
        service := some service
        diagnostics := context.diagnostics ++ findings } := by
  simp only [build, Context.requireSchema, read] at done ⊢
  split at done
  · contradiction
  · next service findings built =>
    rw [built]
    exact ⟨service, findings, rfl, rfl⟩

end Phase

namespace Pipeline

variable {language : TargetLanguage} {input : ServiceInput} {service : Service}
  {findings : List Diagnostic}

/-- What a model is built from once the schema has been read. -/
def modelInput (input : ServiceInput) (schema : Schema) : ModelInput where
  schema
  fileName := input.fileName
  mapping := input.mapping
  swagger := input.swagger

/-- A model with the schema that it is built of, as the standard phases make it. -/
structure IsBuilt (language : TargetLanguage) (input : ServiceInput) (schema : Schema)
    (service : Service) (findings : List Diagnostic) : Prop where
  accepted : Schema.parse input.documents = .ok schema
  passes : schema.Passes Lint.all
  built : ∃ reported, Model.build language (modelInput input schema) = .ok (service, reported) ∧
    findings = Lint.all.flatMap (·.check schema) ++ reported

theorem model_eq_ok {pipeline : Pipeline}
    (done : pipeline.model input = .ok (service, findings)) :
    (pipeline.run (.start input)).failure = none ∧
      (pipeline.run (.start input)).context.service = some service ∧
      (pipeline.run (.start input)).context.diagnostics = findings := by
  simp only [model] at done
  cases failed : (pipeline.run (.start input)).failure with
  | some failure => simp [failed] at done
  | none =>
      simp only [failed, Context.takeService] at done
      cases taken : (pipeline.run (.start input)).context.service with
      | none => simp [taken, Except.map] at done
      | some other =>
          simp only [taken, Except.map, Except.ok.injEq, Prod.mk.injEq] at done
          exact ⟨rfl, congrArg some done.1, done.2⟩

theorem isBuilt_of_model (done : (standard language).model input = .ok (service, findings)) :
    ∃ schema, IsBuilt language input schema service findings := by
  obtain ⟨succeeded, taken, reported⟩ := model_eq_ok done
  obtain ⟨parsed, succeeded, afterParse⟩ := Step.runAll_cons succeeded
  obtain ⟨schema, accepted, read⟩ := Phase.run_parse parsed
  rw [read] at succeeded afterParse
  obtain ⟨checked, succeeded, afterChecks⟩ := Step.runAll_cons succeeded
  obtain ⟨added, clean⟩ := Phase.run_validate rfl checked
  have passes := (Phase.faults_validate_eq_iff rfl).1 clean
  rw [added] at succeeded afterChecks
  obtain ⟨ran, -, afterBuild⟩ := Step.runAll_cons succeeded
  obtain ⟨other, reportedLast, built, made⟩ := Phase.run_build rfl ran
  have last := afterParse.trans (afterChecks.trans (afterBuild.trans made))
  obtain rfl := Option.some.inj ((congrArg Context.service last).symm.trans taken)
  have all := (congrArg Context.diagnostics last).symm.trans reported
  exact ⟨schema, accepted, passes, reportedLast, built, all.symm⟩

/-- The standard phases make every such model. -/
theorem model_of_isBuilt {schema : Schema}
    (isBuilt : IsBuilt language input schema service findings) :
    (standard language).model input = .ok (service, findings) := by
  obtain ⟨accepted, passes, reported, built, rfl⟩ := isBuilt
  have parsed : Phase.parse.run (.start input) =
      .proceed { Context.start input with schema := some schema } := by
    simp only [Phase.parse, Context.start, accepted]
  have clean : (Lint.all.flatMap (·.check schema)).filter Diagnostic.isError = [] := by
    rw [List.filter_eq_nil_iff]
    intro finding member
    obtain ⟨lint, isLint, found⟩ := List.mem_flatMap.1 member
    simp [passes lint isLint finding found]
  have checked : (Phase.validate Lint.all).run { Context.start input with schema := some schema } =
      .proceed { Context.start input with
        schema := some schema
        diagnostics := Lint.all.flatMap (·.check schema) } := by
    simp only [Phase.validate, Context.requireSchema, Context.start, Context.faults,
      List.nil_append, clean, List.isEmpty_nil, if_true]
  have made : (Phase.build language).run { Context.start input with
      schema := some schema
      diagnostics := Lint.all.flatMap (·.check schema) } = .proceed { Context.start input with
        schema := some schema
        service := some service
        diagnostics := Lint.all.flatMap (·.check schema) ++ reported } := by
    rw [modelInput] at built
    simp only [Phase.build, Context.requireSchema, Context.start, built]
  have ran : (standard language).run (.start input) =
      Step.runAll (.start input) [
        ⟨.phase "parse", Phase.parse.run⟩,
        ⟨.phase "validate", (Phase.validate Lint.all).run⟩,
        ⟨.phase "build", (Phase.build language).run⟩] :=
    rfl
  simp only [model, ran, Step.runAll, parsed, checked, made, Outcome.proceed, Context.takeService,
    Except.map]

end Pipeline

end ODataClient
