import ODataClient.Generation.Run
import ODataClient.Proofs.Generation.Selection
import ODataClient.Proofs.Outcome

/-!
# Runs of generation

A run reads all there is before it generates anything, and what it goes on to do depends on what was
read alone. So a run that ends with a report has made its selection from what was read.
-/

namespace ODataClient.Generation

/-- A metadata file with what was read of it. -/
abbrev Reading := ServiceSource × Except LoadError ServiceInput

/-- What a run has read before it generates anything. -/
structure Preparation where
  mappings : ServiceMappings
  readings : List Reading

/-- Generates the client of a service in memory from what was read. -/
def complete (mappings : ServiceMappings) (package : TypeScript.PackageOptions) : Reading → Attempt
  | (source, .error error) => (source, .error (.unloaded error))
  | (source, .ok input) => (source, generateService mappings package input)

namespace Preparation

variable (prepared : Preparation) (package : TypeScript.PackageOptions)

/-- The metadata files that were found. -/
def sources : List ServiceSource := prepared.readings.map Prod.fst

/-- What comes of each of the metadata files. -/
def attempts : List Attempt := prepared.readings.map (complete prepared.mappings package)

/-- The services selected for what was read. -/
def selection : Selection := .ofAttempts (prepared.attempts package)

end Preparation

section Stages

variable {m : Type → Type} [Monad m] [Disk m]

/-- Reads a metadata file and what lies beside it. -/
def read (options : GenerationOptions) (source : ServiceSource) : m Reading := do
  return (source, ← (source.load options.useSwagger).run)

/-- Reads all there is. -/
def prepare (options : GenerationOptions) : ExceptT RunError m Preparation := do
  let sources ← discover options.inputDirectory
  let mappings ← loadMappings options.serviceMapping
  let readings ← (sources.mapM (read options) : m (List Reading))
  return { mappings, readings }

/-- What is read depends on three options. -/
theorem prepare_congr {options other : GenerationOptions}
    (directory : options.inputDirectory = other.inputDirectory)
    (mapping : options.serviceMapping = other.serviceMapping)
    (swagger : options.useSwagger = other.useSwagger) :
    (prepare options : ExceptT RunError m Preparation) = prepare other := by
  have reads : (read options : ServiceSource → m Reading) = read other := by
    funext source
    rw [read, read, swagger]
  rw [prepare, prepare, directory, mapping, reads]

/-- What is reported when nothing is written. -/
def plan (options : GenerationOptions) (selection : Selection) : GenerationReport where
  outputDirectory := options.outputDirectory
  services := selection.services
  failures := selection.failures
  warnings := selection.warnings
  result := .shown (selection.accepted.flatMap GeneratedService.files ++
    selection.sharedFiles options.aggregator options.package)

@[simp]
theorem services_plan (options : GenerationOptions) (selection : Selection) :
    (plan options selection).services = selection.services :=
  rfl

@[simp]
theorem failures_plan (options : GenerationOptions) (selection : Selection) :
    (plan options selection).failures = selection.failures :=
  rfl

/-- What is reported when files have been written. -/
def conclude (options : GenerationOptions) (selection : Selection) (progress : Progress)
    (warnings : List String) : GenerationReport :=
  { plan options selection with
    failures := selection.failures ++ progress.failures
    warnings := selection.warnings ++ warnings
    result := .written progress.report }

/-- What a run does once all has been read. -/
def carryOut (options : GenerationOptions) (selection : Selection) :
    ExceptT RunError m GenerationReport := do
  if options.isDryRun then return plan options selection
  let (progress, warnings) ← write options selection
  return conclude options selection progress warnings

variable [LawfulMonad m] {options : GenerationOptions}

theorem attempt_eq (mappings : ServiceMappings) :
    (attempt options mappings : ServiceSource → m Attempt) = fun source =>
      complete mappings options.package <$> read options source := by
  funext source
  rw [attempt, read, bind_pure_comp, Functor.map_map, map_eq_pure_bind]
  apply bind_congr
  rintro (error | input) <;> rfl

omit [Disk m] in
theorem mapM_map {α β γ : Type} {make : β → γ} {step : α → m β} (items : List α) :
    items.mapM (fun item => make <$> step item) = List.map make <$> items.mapM step := by
  induction items with
  | nil => simp
  | cons item items ih => simp [ih]

/-- A run first reads all there is and then goes on from what was read. -/
theorem generate_eq : (generate options : ExceptT RunError m GenerationReport) =
    prepare options >>= fun prepared =>
      carryOut options (prepared.selection options.package) := by
  simp only [generate, prepare, bind_assoc, attempt_eq, mapM_map]
  refine bind_congr fun sources => bind_congr fun mappings => ?_
  simp only [liftM_map, bind_map_left, pure_bind]
  refine bind_congr fun readings => ?_
  rfl

end Stages

section Disks

/-- Carries out an action on a disk. There is the disk behind it, too. -/
def runOn {σ α : Type} (action : StateM σ α) (disk : σ) : α × σ := action.run disk

variable {σ ε α β : Type} {disk after : σ}

theorem runOn_bind {action : StateM σ α} {next : α → StateM σ β} :
    runOn (action >>= next) disk =
      runOn (next (runOn action disk).1) (runOn action disk).2 :=
  rfl

/-- Two actions succeed one after the other. -/
theorem runOn_bind_eq_ok {action : ExceptT ε (StateM σ) α} {next : α → ExceptT ε (StateM σ) β}
    {result : β} :
    runOn (action >>= next).run disk = (.ok result, after) ↔
      ∃ value middle, runOn action.run disk = (.ok value, middle) ∧
        runOn (next value).run middle = (.ok result, after) := by
  rw [ExceptT.run_bind, runOn_bind]
  cases runOn action.run disk with
  | mk outcome middle =>
      cases outcome with
      | error error =>
          have stopped : runOn (pure (.error error) : StateM σ (Except ε β)) middle =
              (.error error, middle) := rfl
          simp [stopped]
      | ok value => simp

theorem runOn_pure_eq_ok {value result : α} :
    runOn (pure value : ExceptT ε (StateM σ) α).run disk = (.ok result, after) ↔
      value = result ∧ disk = after := by
  have ran : runOn (pure value : ExceptT ε (StateM σ) α).run disk = (.ok value, disk) := rfl
  rw [ran]
  simp

theorem runOn_lift_eq_ok {action : StateM σ α} {result : α} :
    runOn (liftM action : ExceptT ε (StateM σ) α).run disk = (.ok result, after) ↔
      runOn action disk = (result, after) := by
  have ran : runOn (liftM action : ExceptT ε (StateM σ) α).run disk =
      (.ok (runOn action disk).1, (runOn action disk).2) := rfl
  rw [ran]
  simp [Prod.ext_iff]

theorem runOn_require_eq_ok {reason : DiskError → RunError}
    {action : ExceptT DiskError (StateM σ) α} {result : α} :
    runOn (require reason action).run disk = (.ok result, after) ↔
      runOn action.run disk = (.ok result, after) := by
  have ran : runOn (require reason action).run disk =
      ((runOn action.run disk).1.mapError reason, (runOn action.run disk).2) := rfl
  rw [ran]
  cases runOn action.run disk with
  | mk outcome middle => cases outcome <;> simp [Except.mapError]

theorem runOn_map {action : StateM σ α} {make : α → β} :
    runOn (make <$> action) disk = (make (runOn action disk).1, (runOn action disk).2) :=
  rfl

/-- What a result shows of the item that it was made for, all results show of all items. -/
theorem map_runOn_mapM {γ : Type} {step : α → StateM σ β} {left : β → γ} {right : α → γ}
    (same : ∀ item disk, left (runOn (step item) disk).1 = right item) (items : List α) (disk : σ) :
    (runOn (items.mapM step) disk).1.map left = items.map right := by
  induction items generalizing disk with
  | nil => rfl
  | cons item items ih =>
      rw [List.mapM_cons, runOn_bind, runOn_bind, List.map_cons, ← same item disk, ← ih]
      rfl

theorem exists_of_mem_runOn_mapM {step : α → StateM σ β} {items : List α} {result : β}
    (member : result ∈ (runOn (items.mapM step) disk).1) :
    ∃ item ∈ items, ∃ before, (runOn (step item) before).1 = result := by
  induction items generalizing disk with
  | nil => cases member
  | cons item items ih =>
      rw [List.mapM_cons, runOn_bind, runOn_bind] at member
      obtain rfl | later := List.mem_cons.1 member
      · exact ⟨item, List.mem_cons_self, disk, rfl⟩
      · obtain ⟨other, isItem, made⟩ := ih later
        exact ⟨other, List.mem_cons_of_mem item isItem, made⟩

end Disks

section Reading

variable {σ : Type} [Disk (StateM σ)] {options : GenerationOptions} {disk after : σ}
  {source : ServiceSource} {input : ServiceInput} {prepared : Preparation}

/-- What is read of a metadata file is about the service that the file is called after, and nothing
has been chosen for it. -/
theorem input_of_load {useSwagger : Bool}
    (loaded : runOn (source.load useSwagger).run disk = (.ok input, after)) :
    input.fileName = source.fileName ∧ input.mapping = none := by
  obtain ⟨outcome, opened, -, ran⟩ := runOn_bind_eq_ok.1 loaded
  cases outcome with
  | error error => cases ran
  | ok text =>
      dsimp only at ran
      split at ran
      all_goals
        obtain ⟨swagger, stop, -, ran⟩ := runOn_bind_eq_ok.1 ran
        obtain ⟨rfl, -⟩ := runOn_pure_eq_ok.1 ran
        exact ⟨rfl, rfl⟩

theorem input_of_prepare (ran : runOn (prepare options).run disk = (.ok prepared, after))
    (isRead : (source, .ok input) ∈ prepared.readings) :
    input.fileName = source.fileName ∧ input.mapping = none := by
  obtain ⟨sources, found, ranDiscover, ran⟩ := runOn_bind_eq_ok.1 ran
  obtain ⟨mappings, loaded, ranMappings, ran⟩ := runOn_bind_eq_ok.1 ran
  obtain ⟨readings, last, ranRead, ran⟩ := runOn_bind_eq_ok.1 ran
  obtain ⟨rfl, rfl⟩ := runOn_pure_eq_ok.1 ran
  obtain rfl : _ = readings := congrArg Prod.fst (runOn_lift_eq_ok.1 ranRead)
  obtain ⟨other, isSource, before, same⟩ := exists_of_mem_runOn_mapM isRead
  have made : (other, (runOn (other.load options.useSwagger).run before).1) =
      (source, .ok input) := same
  obtain ⟨rfl, loads⟩ := Prod.mk.inj made
  exact input_of_load (Prod.ext loads rfl)

end Reading

section Selected

variable {mappings : ServiceMappings} {package : TypeScript.PackageOptions} {input : ServiceInput}
  {source : ServiceSource} {generated : GeneratedService} {prepared : Preparation}

theorem model_of_generateService (made : generateService mappings package input = .ok generated) :
    ∃ findings, (generationPipeline mappings).model input = .ok (generated.service, findings) := by
  rw [generateService] at made
  cases modelled : (generationPipeline mappings).model input with
  | error failure => simp [modelled] at made
  | ok result =>
      obtain ⟨service, findings⟩ := result
      cases packaged : TypeScript.package service package with
      | error error => simp [modelled, packaged] at made
      | ok files =>
          simp only [modelled, packaged, Except.ok.injEq] at made
          exact ⟨findings, by rw [← made]⟩

theorem fst_complete (reading : Reading) : (complete mappings package reading).1 = reading.1 := by
  obtain ⟨source, error | input⟩ := reading <;> rfl

theorem map_fst_attempts : (prepared.attempts package).map Prod.fst = prepared.sources := by
  rw [Preparation.attempts, List.map_map]
  exact List.map_congr_left fun reading _ => fst_complete reading

theorem mem_attempts_eq_ok_iff : (source, .ok generated) ∈ prepared.attempts package ↔
    ∃ input, (source, .ok input) ∈ prepared.readings ∧
      generateService prepared.mappings package input = .ok generated := by
  rw [Preparation.attempts, List.mem_map]
  constructor
  · rintro ⟨⟨other, outcome⟩, isRead, same⟩
    cases outcome with
    | error error => simp [complete] at same
    | ok input =>
        obtain ⟨rfl, made⟩ := Prod.mk.inj same
        exact ⟨input, isRead, made⟩
  · rintro ⟨input, isRead, made⟩
    exact ⟨(source, .ok input), isRead, by rw [complete, made]⟩

/-- A service that is selected was generated from what was read. -/
theorem exists_reading_of_accepted
    (accepted : generated ∈ (prepared.selection package).accepted) :
    ∃ source input, (source, .ok input) ∈ prepared.readings ∧
      generateService prepared.mappings package input = .ok generated := by
  have succeeded := Selection.mem_successes_of_accepted accepted
  obtain ⟨source, attempted⟩ := Selection.mem_successes.1 succeeded
  obtain ⟨input, isRead, made⟩ := mem_attempts_eq_ok_iff.1 attempted
  exact ⟨source, input, isRead, made⟩

end Selected

section Reports

variable {σ : Type} [Disk (StateM σ)] {options : GenerationOptions} {disk after : σ}
  {report : GenerationReport}

/-- A run ends with a report if all can be read and what follows ends with the report. -/
theorem generate_eq_ok_iff : runOn (generate options).run disk = (.ok report, after) ↔
    ∃ prepared middle, runOn (prepare options).run disk = (.ok prepared, middle) ∧
      runOn (carryOut options (prepared.selection options.package)).run middle =
        (.ok report, after) := by
  rw [generate_eq, runOn_bind_eq_ok]

end Reports

end ODataClient.Generation
