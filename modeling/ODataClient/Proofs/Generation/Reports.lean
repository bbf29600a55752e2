import ODataClient.Proofs.Generation.MappingFile

/-!
# What a run reports

The services that a run selects and those that it refuses are together the services found. What is
reported adds the services whose files could not be written, which have been selected before and
stay among the services reported. The mapping file and the package that brings the others together
name the services reported.
-/

namespace ODataClient

namespace TypeScript.PackageJson

theorem isTextual_toJson (package : PackageJson) : package.toJson.IsTextual := by
  have texts (entries : List (String × String)) :
      (Json.object (entries.map fun entry => (entry.1, Json.text entry.2))).IsTextual := by
    refine .object fun member isMember => ?_
    obtain ⟨entry, -, rfl⟩ := List.mem_map.1 isMember
    exact .text _
  refine .object fun member isMember => ?_
  simp only [List.mem_append, List.mem_map, List.mem_cons, List.not_mem_nil, or_false] at isMember
  obtain ((rfl | rfl | rfl) | ⟨_, -, rfl⟩) | rfl | rfl | rfl | rfl | rfl | rfl := isMember
  all_goals first | exact .text _ | exact texts [_] | exact texts _

/-- The packages that a package depends on can be read from its description. -/
theorem exists_dependencies_of_render (package : PackageJson) :
    ∃ members dependencies, Json.parse? package.render = some (.object members) ∧
      members.lookup "dependencies" = some (.object dependencies) ∧
      dependencies.map Prod.fst = package.dependencies.map Prod.fst := by
  refine ⟨_, package.dependencies.map fun entry => (entry.1, .text entry.2),
    Json.parse?_render package.isTextual_toJson, ?_, by simp⟩
  cases package.homepage with
  | none => rfl
  | some homepage => rfl

end TypeScript.PackageJson

namespace Selection

/-- When services are called after their metadata files, these are the files of the services that
succeed and of the failures. -/
theorem exists_split_of_judged {judged : List Attempt}
    (named : ∀ source generated, (source, .ok generated) ∈ judged →
      generated.service.fileName = source.fileName) :
    ∃ taken refused : List ServiceSource, (taken ++ refused).Perm (judged.map Prod.fst) ∧
      (successes judged).map (·.service.fileName) = taken.map (·.fileName) ∧
      (judged.filterMap failure?).map (·.fileName) = refused.map (·.fileName) := by
  induction judged with
  | nil => exact ⟨[], [], .nil, rfl, rfl⟩
  | cons attempt judged ih =>
      obtain ⟨taken, refused, all, services, failures⟩ := ih fun source generated member =>
        named source generated (List.mem_cons_of_mem attempt member)
      obtain ⟨source, outcome⟩ := attempt
      cases outcome with
      | error fault =>
          refine ⟨taken, source :: refused, ?_, services, ?_⟩
          · exact List.perm_middle.trans (all.cons source)
          · exact congrArg (source.fileName :: ·) failures
      | ok generated =>
          refine ⟨source :: taken, refused, all.cons source, ?_, failures⟩
          rw [List.map_cons, ← named source generated List.mem_cons_self, ← services]
          rfl

end Selection

namespace Generation

variable {σ : Type} [Disk (StateM σ)] {options : GenerationOptions} {disk after : σ}
  {report : GenerationReport} {prepared : Preparation} {package : TypeScript.PackageOptions}
  {source : ServiceSource} {generated : GeneratedService}

/-- Every metadata file is that of one of the services reported or that of one of the failures, and
of one only. -/
def ReportsOnce (sources : List ServiceSource) (report : GenerationReport) : Prop :=
  ∃ taken refused : List ServiceSource, (taken ++ refused).Perm sources ∧
    report.services.map (·.fileName) = taken.map (·.fileName) ∧
    report.failures.map (·.fileName) = refused.map (·.fileName)

/-- A service is called after the metadata file that it was read from. -/
theorem fileName_of_attempt (ran : runOn (prepare options).run disk = (.ok prepared, after))
    (attempted : (source, .ok generated) ∈ prepared.attempts package) :
    generated.service.fileName = source.fileName := by
  obtain ⟨input, isRead, made⟩ := mem_attempts_eq_ok_iff.1 attempted
  obtain ⟨findings, modelled⟩ := model_of_generateService made
  obtain ⟨schema, isBuilt⟩ := Pipeline.model_generationPipeline_eq_ok_iff.1 modelled
  obtain ⟨reported, built, -⟩ := isBuilt.built
  have named : generated.service.fileName = input.fileName := Model.fileName_of_build built
  exact named.trans (input_of_prepare ran isRead).1

theorem ReportsOnce.length_eq {sources : List ServiceSource} (once : ReportsOnce sources report) :
    report.services.length + report.failures.length = sources.length := by
  obtain ⟨taken, refused, all, services, failures⟩ := once
  replace services := congrArg List.length services
  replace failures := congrArg List.length failures
  rw [List.length_map, List.length_map] at services failures
  rw [services, failures, ← all.length_eq, List.length_append]

/-- Until something is written, each metadata file is reported once. -/
theorem reportsOnce_plan (ran : runOn (prepare options).run disk = (.ok prepared, after)) :
    ReportsOnce prepared.sources (plan options (prepared.selection package)) := by
  have tracks := Selection.tracks_ofAttempts (prepared.attempts package)
  have named : ∀ source generated,
      (source, .ok generated) ∈ Selection.judge [] (prepared.attempts package) →
        generated.service.fileName = source.fileName := by
    intro source generated member
    obtain ⟨before, result, after, split, judged⟩ := Selection.mem_judge_iff.1 member
    obtain ⟨rfl, -⟩ := Selection.verdict_eq_ok_iff.1 judged.symm
    apply fileName_of_attempt ran
    rw [split]
    exact List.mem_append_right _ List.mem_cons_self
  obtain ⟨taken, refused, all, services, failures⟩ := Selection.exists_split_of_judged named
  rw [Selection.map_fst_judge, map_fst_attempts] at all
  refine ⟨taken, refused, all, ?_, ?_⟩
  · rw [← services, services_plan, Selection.services, List.map_map, ← tracks.accepted]
    rfl
  · rw [← failures, ← tracks.failures]
    rfl

/-- What is put beside the packages names some services and no others: the mapping file by the names
of their metadata files, and the package that brings them together by those of their packages. -/
structure Names (selection : Selection) (package : TypeScript.PackageOptions)
    (services : List Service) : Prop where
  unmapped : selection.mappingText? = none → services = []
  mapping (text : String) : selection.mappingText? = some text →
    ∃ written, ServiceMappings.parse Selection.mappingFileName text = .ok written ∧
      ∀ name, name ∈ written.map Prod.fst ↔ name ∈ services.map (·.fileName)
  dependencies (aggregator : Aggregator) :
    ∃ members dependencies,
      Json.parse? (selection.aggregatorFile aggregator package).text = some (.object members) ∧
      members.lookup "dependencies" = some (.object dependencies) ∧
      ∀ name, name ∈ dependencies.map Prod.fst ↔ name ∈ services.map (·.npmPackageName)

theorem names_services (selection : Selection) (package : TypeScript.PackageOptions) :
    Names selection package selection.services := by
  constructor
  · intro unmapped
    have empty : selection.accepted.isEmpty = true := by
      by_contra nonempty
      simp [Selection.mappingText?, nonempty] at unmapped
    rw [Selection.services, List.isEmpty_iff.1 empty, List.map_nil]
  · intro text isWritten
    obtain rfl := eq_render_of_mappingText? isWritten
    exact ⟨_, ServiceMappings.parse_render_ofServices _ _, fun _ =>
      ServiceMappings.mem_keys_ofServices⟩
  · intro aggregator
    obtain ⟨members, dependencies, parsed, found, keys⟩ :=
      (TypeScript.PackageJson.aggregator aggregator.npmPackageName package.packageVersion
        (selection.services.map (·.npmPackageName))).exists_dependencies_of_render
    refine ⟨members, dependencies, parsed, found, fun name => ?_⟩
    rw [keys, TypeScript.PackageJson.aggregator, Dictionary.mem_keys_ofEntries, List.map_map]
    simp

/-- A run reports each metadata file once exactly if no writing of a service's files has failed. A
service whose files could not be written is reported as generated and as failed. -/
theorem reportsOnce_iff_of_generate
    (ran : runOn (generate options).run disk = (.ok report, after)) :
    ∃ prepared middle written, runOn (prepare options).run disk = (.ok prepared, middle) ∧
      Writes options (prepared.selection options.package) middle written ∧
      (ReportsOnce prepared.sources report ↔ ∀ entry ∈ written, ∃ done, entry.2 = .ok done) ∧
      (∀ generated error, (generated, .error error) ∈ written →
        generated.service ∈ report.services ∧
          ∃ failure ∈ report.failures, failure.fileName = generated.service.fileName ∧
            failure.fault = .notWritten error) ∧
      Names (prepared.selection options.package) options.package report.services := by
  obtain ⟨prepared, middle, ranPrepare, ranRest⟩ := generate_eq_ok_iff.1 ran
  obtain ⟨services, written, writes, failures⟩ := report_of_carryOut ranRest
  have planned : ReportsOnce prepared.sources (plan options (prepared.selection options.package)) :=
    reportsOnce_plan ranPrepare
  refine ⟨prepared, middle, written, ranPrepare, writes, ?_, ?_, services ▸ names_services _ _⟩
  · rw [← @filterMap_unwritten?_eq_nil_iff options]
    constructor
    · intro once
      have lengths := once.length_eq.trans planned.length_eq.symm
      rw [services, failures, List.length_append, services_plan, failures_plan] at lengths
      exact List.eq_nil_of_length_eq_zero (by omega)
    · intro none
      rw [none, List.append_nil] at failures
      rw [ReportsOnce, services, failures]
      exact planned
  · intro generated error failed
    let failure : ServiceFailure := {
      fileName := generated.service.fileName
      path := Path.join options.outputDirectory generated.service.directoryName
      fault := .notWritten error }
    have isUnwritten : failure ∈ written.filterMap (unwritten? options) :=
      List.mem_filterMap.2 ⟨_, failed, rfl⟩
    refine ⟨?_, failure, ?_, rfl, rfl⟩
    · rw [services]
      exact List.mem_map_of_mem (writes.mem_accepted failed)
    · rw [failures]
      exact List.mem_append_right _ isUnwritten

/-- How a run on a disk with one metadata file ends when it writes what it generates. -/
theorem exists_report_oneShop {nodes : List (Location × FileNode)} {failed : List String}
    (isCase : nodes = [] ∨ nodes = [(["out", "shop"], .file "")])
    (ends : (runOn (carryOut { shopOptions with isDryRun := false }
      (oneShopPrepared.selection {})).run (oneShop nodes)).1.toOption.map (fun report =>
        (report.services.map (·.fileName), report.failures.map (·.fileName))) =
          some (["Shop"], failed)) :
    ∃ report after, runOn (generate { shopOptions with isDryRun := false }).run (oneShop nodes) =
        (.ok report, after) ∧
      report.services.map (·.fileName) = ["Shop"] ∧
      report.failures.map (·.fileName) = failed := by
  obtain ⟨report, concluded, seen⟩ := Outcome.exists_of_toOption ends
  obtain ⟨services, failures⟩ := Prod.mk.inj seen
  let options : GenerationOptions := { shopOptions with isDryRun := false }
  have ran : runOn (carryOut options (oneShopPrepared.selection options.package)).run
      (oneShop nodes) = (.ok report, (runOn (carryOut options
        (oneShopPrepared.selection options.package)).run (oneShop nodes)).2) :=
    Prod.ext concluded (Eq.refl _)
  exact ⟨report, _, generate_eq_ok_iff.2 ⟨oneShopPrepared, _, prepare_oneShop false isCase, ran⟩,
    services, failures⟩

theorem reportsOnce_oneShop : ∃ report after prepared middle,
    runOn (generate { shopOptions with isDryRun := false }).run (oneShop []) =
      (.ok report, after) ∧
    runOn (prepare { shopOptions with isDryRun := false }).run (oneShop []) =
      (.ok prepared, middle) ∧
    report.services.map (·.fileName) = ["Shop"] ∧ ReportsOnce prepared.sources report := by
  obtain ⟨report, after, ran, services, failures⟩ :=
    @exists_report_oneShop [] [] (.inl rfl) (by
      rw [selection_oneShop]
      decide +kernel)
  obtain ⟨prepared, middle, written, ranPrepare, writes, once, twice, -⟩ :=
    reportsOnce_iff_of_generate ran
  have none : report.failures = [] := List.map_eq_nil_iff.1 failures
  refine ⟨report, after, prepared, middle, ran, ranPrepare, services, once.2 ?_⟩
  rintro ⟨generated, outcome⟩ member
  cases outcome with
  | ok done => exact ⟨done, rfl⟩
  | error error =>
      obtain ⟨-, failure, isFailure, -⟩ := twice generated error member
      rw [none] at isFailure
      cases isFailure

/-- A file stands where the directory of the shop should be made. -/
theorem exists_service_reported_twice : ∃ report after prepared middle,
    runOn (generate { shopOptions with isDryRun := false }).run
      (oneShop [(["out", "shop"], .file "")]) = (.ok report, after) ∧
    runOn (prepare { shopOptions with isDryRun := false }).run
      (oneShop [(["out", "shop"], .file "")]) = (.ok prepared, middle) ∧
    prepared.sources.map (·.fileName) = ["Shop"] ∧
    report.services.map (·.fileName) = ["Shop"] ∧ report.failures.map (·.fileName) = ["Shop"] ∧
    ¬ ReportsOnce prepared.sources report := by
  obtain ⟨report, after, ran, services, failures⟩ :=
    @exists_report_oneShop _ ["Shop"] (.inr rfl) (by
      rw [selection_oneShop]
      decide +kernel)
  refine ⟨report, after, oneShopPrepared, _, ran, prepare_oneShop false (.inr rfl), rfl, services,
    failures, fun once => ?_⟩
  have lengths := once.length_eq
  replace services := congrArg List.length services
  replace failures := congrArg List.length failures
  rw [List.length_map] at services failures
  rw [services, failures] at lengths
  cases lengths

end Generation

end ODataClient
