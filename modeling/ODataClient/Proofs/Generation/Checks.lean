import ODataClient.Check
import ODataClient.Proofs.Generation.MappingFile
import ODataClient.Proofs.TypeScript.Emission

/-!
# Checks before generation

A check reads what a run of generation reads and does the same work on it, so that a service is
found valid exactly if its client can be generated. A run may still refuse it because its directory
is in use.
-/

namespace ODataClient

theorem Outcome.andThen_eq_of_none {outcome : Outcome} {next : Context → Outcome}
    (done : (outcome.andThen next).failure = none) :
    outcome.failure = none ∧ outcome.andThen next = next outcome.context := by
  rw [andThen] at done ⊢
  cases failed : outcome.failure with
  | some failure => simp [failed] at done
  | none => exact ⟨rfl, rfl⟩

namespace Pipeline

variable {mappings : ServiceMappings} {input : ServiceInput} {schema : Schema} {service : Service}
  {findings : List Diagnostic} {language : TargetLanguage}

/-- Work that does not fail comes to a model. -/
theorem exists_model_of_run
    (done : ((generationPipeline mappings).run (.start input)).failure = none) :
    ∃ result, (generationPipeline mappings).model input = .ok result := by
  have whole := @outcome_generationPipeline mappings (.start input)
  have succeeded : ((generationPipeline mappings).run (.start input)).outcome.failure = none := done
  rw [whole] at succeeded
  obtain ⟨parsed, afterParse⟩ := Outcome.andThen_eq_of_none succeeded
  obtain ⟨schema, -, read⟩ := Phase.run_parse parsed
  rw [afterParse, read] at succeeded
  obtain ⟨checked, afterChecks⟩ := Outcome.andThen_eq_of_none succeeded
  obtain ⟨added, -⟩ := Phase.run_validate rfl checked
  rw [afterChecks, added, Plugin.before_serviceMapping_build rfl,
    Outcome.proceed_andThen] at succeeded
  obtain ⟨service, findings, -, built⟩ := Phase.run_build rfl succeeded
  have made : ((generationPipeline mappings).run (.start input)).context.service =
      some service := by
    have last := congrArg Outcome.context whole
    rw [afterParse, read, afterChecks, added, Plugin.before_serviceMapping_build rfl,
      Outcome.proceed_andThen, built] at last
    exact congrArg Context.service last
  simp only [model, done, Context.takeService, made]
  exact ⟨_, rfl⟩

/-- A model is not made with faults. -/
theorem IsBuilt.isError_eq_false (isBuilt : IsBuilt language input schema service findings) :
    ∀ finding ∈ findings, finding.isError = false := by
  obtain ⟨-, passes, reported, built, rfl⟩ := isBuilt
  intro finding member
  obtain found | found := List.mem_append.1 member
  · obtain ⟨lint, isLint, found⟩ := List.mem_flatMap.1 found
    exact passes lint isLint finding found
  · obtain ⟨last, -, types, complex, model⟩ := Model.isModelOf_of_buildFrom built
    have severity := Model.severity_of_mem_findings model found
    simp [Diagnostic.isError, severity]

end Pipeline

namespace Check

open Generation (Reading Preparation runOn runOn_bind_eq_ok runOn_pure_eq_ok)

section Runs

/-- What is reported of a metadata file, going by what was read of it. -/
def examine (mappings : ServiceMappings) : Reading → ServiceCheck
  | (source, .error error) => { source, failure := some error.message }
  | (source, .ok input) =>
    let run := (generationPipeline mappings).run (.start input)
    { source
      diagnostics := run.context.diagnostics
      failure := if run.context.faults.isEmpty then run.failure.map Failure.text else none }

/-- A check and a run of generation that read the same. -/
structure ReadsSame (checking : CheckOptions) (options : GenerationOptions) : Prop where
  inputDirectory : checking.inputDirectory = options.inputDirectory
  serviceMapping : checking.serviceMapping = options.serviceMapping
  useSwagger : checking.useSwagger = options.useSwagger

variable {m : Type → Type} [Monad m] [Disk m] [LawfulMonad m] {checking : CheckOptions}
  {options : GenerationOptions}

theorem service_eq (noModels : checking.modelDirectory = none)
    (same : ReadsSame checking options) (mappings : ServiceMappings) :
    (service checking mappings : ServiceSource → m ServiceCheck) =
      fun source => examine mappings <$> Generation.read options source := by
  funext source
  have keeps (context : Context) : (keepModel checking context : m (Option String)) =
      pure none := by
    rw [keepModel, noModels]
  rw [service, Generation.read, bind_pure_comp, Functor.map_map, map_eq_pure_bind,
    same.useSwagger]
  apply bind_congr
  rintro (error | input)
  · rfl
  · simp only [keeps, examine, pure_bind]
    cases ((generationPipeline mappings).run (.start input)).context.faults.isEmpty <;>
      cases ((generationPipeline mappings).run (.start input)).failure <;> simp

/-- A check that writes no models first reads all there is and then examines what was read. -/
theorem check_eq (noModels : checking.modelDirectory = none)
    (same : ReadsSame checking options) : (check checking : ExceptT RunError m CheckReport) =
      Generation.prepare options >>= fun prepared => pure {
        inputDirectory := checking.inputDirectory
        services := prepared.readings.map (examine prepared.mappings) } := by
  simp only [check, Generation.prepare, bind_assoc, noModels, service_eq noModels same,
    Generation.mapM_map, same.inputDirectory, same.serviceMapping, pure_bind]
  refine bind_congr fun sources => bind_congr fun mappings => ?_
  simp only [liftM_map, bind_map_left]

end Runs

section Validity

variable {mappings : ServiceMappings} {package : TypeScript.PackageOptions} {input : ServiceInput}

theorem faults_of_run
    (done : ((generationPipeline mappings).run (.start input)).failure = none) :
    ((generationPipeline mappings).run (.start input)).context.faults = [] := by
  obtain ⟨⟨service, findings⟩, made⟩ := Pipeline.exists_model_of_run done
  obtain ⟨-, -, reported⟩ := Pipeline.model_eq_ok made
  obtain ⟨schema, isBuilt⟩ := Pipeline.model_generationPipeline_eq_ok_iff.1 made
  rw [Context.faults, reported, List.filter_eq_nil_iff]
  intro finding member
  simp [isBuilt.isError_eq_false finding member]

/-- The client of a service can be generated whenever the work on it does not fail. -/
theorem exists_generated_iff :
    (∃ generated, generateService mappings package input = .ok generated) ↔
      ((generationPipeline mappings).run (.start input)).failure = none := by
  constructor
  · rintro ⟨generated, made⟩
    obtain ⟨findings, made⟩ := Generation.model_of_generateService made
    exact (Pipeline.model_eq_ok made).1
  · intro done
    obtain ⟨⟨service, findings⟩, made⟩ := Pipeline.exists_model_of_run done
    obtain ⟨schema, -, -, reported, built, -⟩ :=
      Pipeline.model_generationPipeline_eq_ok_iff.1 made
    obtain ⟨files, packaged⟩ := (TypeScript.exists_package_of_buildFrom built).2 package
    refine ⟨{ service, files, warnings := findings.filter Diagnostic.isWarning }, ?_⟩
    simp only [generateService, made, packaged]

theorem isValid_examine_iff {reading : Reading} : (examine mappings reading).isValid = true ↔
    ∃ generated, (Generation.complete mappings package reading).2 = .ok generated := by
  obtain ⟨source, error | input⟩ := reading
  · simp [examine, ServiceCheck.isValid, Generation.complete]
  · have findings : (examine mappings (source, .ok input)).findings .error =
        ((generationPipeline mappings).run (.start input)).context.faults := rfl
    rw [Generation.complete, exists_generated_iff, ServiceCheck.isValid, findings]
    constructor
    · intro valid
      obtain ⟨clean, silent⟩ := Bool.and_eq_true_iff.1 valid
      simpa [examine, clean] using silent
    · intro done
      simp [examine, faults_of_run done, done]

end Validity

section Agreement

variable {σ : Type} [Disk (StateM σ)] {checking : CheckOptions} {options : GenerationOptions}
  {disk first second : σ} {report : CheckReport} {planned : GenerationReport}
  {mappings : ServiceMappings} {package : TypeScript.PackageOptions}

/-- Whether a service is accepted or refused only because its directory is in use. -/
def IsGeneratable (outcome : Except ServiceFault GeneratedService) : Prop :=
  (∃ generated, outcome = .ok generated) ∨ ∃ error, outcome = .error (.duplicateDirectory error)

theorem isGeneratable_verdict_iff (earlier : List Attempt) (reading : Reading) :
    IsGeneratable (Selection.verdict earlier (Generation.complete mappings package reading)) ↔
      ∃ generated, (Generation.complete mappings package reading).2 = .ok generated := by
  obtain ⟨source, error | input⟩ := reading
  · simp [Generation.complete, Selection.verdict, IsGeneratable]
  · rw [Generation.complete]
    cases made : generateService mappings package input with
    | ok generated =>
        simp only [Except.ok.injEq, exists_eq', iff_true, IsGeneratable, Selection.verdict]
        cases Selection.holder? earlier generated.service.directoryName with
        | none => exact .inl ⟨_, rfl⟩
        | some first => exact .inr ⟨_, rfl⟩
    | error fault =>
        have other (error : DuplicateDirectory) : fault ≠ .duplicateDirectory error := by
          rintro rfl
          rw [generateService] at made
          split at made
          · cases made
          · split at made <;> cases made
        simp [Selection.verdict, IsGeneratable, other]

theorem forall₂_examine (readings : List Reading) (earlier : List Attempt) :
    List.Forall₂ (fun check outcome => check.source = outcome.1 ∧
        (check.isValid = true ↔ IsGeneratable outcome.2))
      (readings.map (examine mappings))
      (Selection.judge earlier (readings.map (Generation.complete mappings package))) := by
  induction readings generalizing earlier with
  | nil => exact .nil
  | cons reading readings ih =>
      rw [List.map_cons, List.map_cons, Selection.judge]
      refine .cons ⟨?_, ?_⟩ (ih _)
      · rw [Generation.fst_complete]
        obtain ⟨source, error | input⟩ := reading <;> rfl
      · rw [isGeneratable_verdict_iff, ← isValid_examine_iff]

/-- A check finds a service valid exactly if a run of generation that only shows what it would write
accepts it or refuses it because its directory is in use. -/
theorem agrees_of_check_of_generate (noModels : checking.modelDirectory = none)
    (dry : options.isDryRun = true) (same : ReadsSame checking options)
    (checked : runOn (check checking).run disk = (.ok report, first))
    (ran : runOn (generate options).run disk = (.ok planned, second)) :
    ∃ outcomes : List Attempt,
      planned.services = (Selection.successes outcomes).map GeneratedService.service ∧
        planned.failures = outcomes.filterMap Selection.failure? ∧
        List.Forall₂ (fun check outcome => check.source = outcome.1 ∧
          (check.isValid = true ↔ IsGeneratable outcome.2)) report.services outcomes := by
  rw [check_eq noModels same] at checked
  obtain ⟨prepared, middle, prepares, concludes⟩ := runOn_bind_eq_ok.1 checked
  obtain ⟨rfl, rfl⟩ := runOn_pure_eq_ok.1 concludes
  obtain ⟨preparedToo, middleToo, preparesToo, carries⟩ := Generation.generate_eq_ok_iff.1 ran
  obtain ⟨rfl, rfl⟩ : prepared = preparedToo ∧ middle = middleToo := by
    simpa using prepares.symm.trans preparesToo
  rw [Generation.carryOut, if_pos dry] at carries
  obtain ⟨rfl, rfl⟩ := runOn_pure_eq_ok.1 carries
  have tracks := Selection.tracks_ofAttempts (prepared.attempts options.package)
  refine ⟨Selection.judge [] (prepared.attempts options.package), ?_, tracks.failures, ?_⟩
  · rw [Generation.services_plan, Selection.services, Preparation.selection, tracks.accepted]
  · exact forall₂_examine _ _

/-- Two shops for which nothing has been chosen, so that both want one directory. -/
def unmappedShops : Preparation :=
  { Generation.twoShopsPrepared with mappings := [] }

theorem prepare_unmappedShops :
    runOn (Generation.prepare Generation.shopOptions).run Generation.twoShops =
      (.ok unmappedShops, Generation.twoShops) := by
  refine runOn_bind_eq_ok.2 ⟨_, _, Generation.discover_twoShops, ?_⟩
  refine runOn_bind_eq_ok.2 ⟨[], _, rfl, ?_⟩
  rfl

theorem selection_unmappedShops : unmappedShops.selection {} = {
    claims := [("shop", "Shop")]
    accepted := [Generation.bareClient "North" Generation.derivedMapping]
    failures := [{
      fileName := "Shop"
      path := "in/south/Shop.edmx"
      fault := .duplicateDirectory { service := "Shop", directory := "shop", first := "Shop" } }] }
    := by
  have made : ∀ ns ∈ ["North", "South"], generateService [] {} (Generation.bareInput ns) =
      .ok (Generation.bareClient ns Generation.derivedMapping) := fun ns member =>
    @Generation.generateService_bare [] ns none member (by simp) rfl
  rw [Preparation.selection, Preparation.attempts, unmappedShops, Generation.twoShopsPrepared,
    List.map_cons, List.map_singleton, Generation.complete, Generation.complete,
    made "North" (by simp), made "South" (by simp)]
  rfl

theorem agrees_unmappedShops :
    let checking : CheckOptions :=
      { inputDirectory := "in", serviceMapping := none, useSwagger := false, modelDirectory := none }
    let planned := Generation.plan Generation.shopOptions (unmappedShops.selection {})
    planned.services.length = 1 ∧ planned.failures.length = 1 ∧
      ∃ report, runOn (check checking).run Generation.twoShops = (.ok report, Generation.twoShops) ∧
        ∃ outcomes : List Attempt,
          planned.services = (Selection.successes outcomes).map GeneratedService.service ∧
          planned.failures = outcomes.filterMap Selection.failure? ∧
          List.Forall₂ (fun check outcome => check.source = outcome.1 ∧
            (check.isValid = true ↔ IsGeneratable outcome.2)) report.services outcomes := by
  intro checking planned
  have same : ReadsSame checking Generation.shopOptions := ⟨rfl, rfl, rfl⟩
  have checked := check_eq (m := StateM FileTree) rfl same
  have ran : runOn (check checking).run Generation.twoShops = (.ok {
      inputDirectory := "in"
      services := unmappedShops.readings.map (examine []) }, Generation.twoShops) := by
    rw [checked]
    exact runOn_bind_eq_ok.2 ⟨_, _, prepare_unmappedShops, rfl⟩
  have plans : runOn (generate Generation.shopOptions).run Generation.twoShops =
      (.ok planned, Generation.twoShops) :=
    Generation.generate_eq_ok_iff.2 ⟨_, _, prepare_unmappedShops, rfl⟩
  refine ⟨?_, ?_, _, ran, agrees_of_check_of_generate rfl rfl same ran plans⟩
  · rw [Generation.services_plan, selection_unmappedShops]
    rfl
  · rw [Generation.failures_plan, selection_unmappedShops]
    rfl

end Agreement

end Check

end ODataClient
