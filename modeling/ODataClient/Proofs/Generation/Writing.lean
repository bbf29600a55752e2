import ODataClient.Proofs.Generation.Runs

/-!
# Writing what has been selected

The files of the services selected are written service by service. What fails on the way only adds
to the failures of a run: the services reported are those selected, and so are those that the files
beside their packages are made for.
-/

namespace ODataClient.Generation

/-- A service with what came of writing its files. -/
abbrev Written := GeneratedService × Except DiskError WriteReport

/-- What is reported of a service whose files could not be written. -/
def unwritten? (options : GenerationOptions) : Written → Option ServiceFailure
  | (generated, .error error) => some {
      fileName := generated.service.fileName
      path := Path.join options.outputDirectory generated.service.directoryName
      fault := .notWritten error }
  | (_, .ok _) => none

/-- The progress when it is noted what came of writing a service. -/
def Progress.note (options : GenerationOptions) (progress : Progress) : Written → Progress
  | (generated, .ok report) => { progress with
      report := append progress.report report
      directories := progress.directories ++
        [Path.join options.outputDirectory generated.service.directoryName] }
  | (generated, .error error) => { progress with
      failures := progress.failures ++ (unwritten? options (generated, .error error)).toList }

section Stages

variable {m : Type → Type} [Monad m] [Disk m] {options : GenerationOptions}

/-- Writes the files of a service. -/
def attemptWrite (options : GenerationOptions) (start : GeneratedService × Bool) : m Written := do
  let writing := TypeScript.writeFilesAfter options.outputDirectory options.replace start.2
  return (start.1, ← (writing start.1.files).run)

/-- Writes the files of services, which are all begun before any is written. -/
def attemptWrites (options : GenerationOptions) (services : List GeneratedService) :
    m (List Written) := do
  let kept ← services.mapM fun generated =>
    TypeScript.keepsFirst options.outputDirectory options.replace generated.files
  (services.zip kept).mapM (attemptWrite options)

variable [LawfulMonad m]

theorem writeService_eq : (writeService options : Progress → _ → m Progress) =
    fun progress start => progress.note options <$> attemptWrite options start := by
  funext progress ⟨generated, isFirstKept⟩
  rw [writeService, attemptWrite, bind_pure_comp, Functor.map_map, map_eq_pure_bind]
  apply bind_congr
  rintro (error | report) <;> rfl

omit [Disk m] in
theorem foldlM_map {α β γ : Type} {note : γ → β → γ} {step : α → m β} (items : List α)
    (start : γ) : items.foldlM (fun value item => note value <$> step item) start =
      List.foldl note start <$> items.mapM step := by
  induction items generalizing start with
  | nil => simp
  | cons item items ih => simp [ih]

/-- What came of the services can also be noted when all have been written. -/
theorem writeServices_eq (services : List GeneratedService) :
    (writeServices options services : m Progress) =
      List.foldl (Progress.note options) {} <$> attemptWrites options services := by
  rw [writeServices, attemptWrites, map_bind]
  refine bind_congr fun kept => ?_
  rw [writeService_eq, foldlM_map]

end Stages

theorem failures_foldl_note {options : GenerationOptions} (written : List Written)
    (progress : Progress) :
    (written.foldl (Progress.note options) progress).failures =
      progress.failures ++ written.filterMap (unwritten? options) := by
  induction written generalizing progress with
  | nil => simp
  | cons head written ih =>
      rw [List.foldl_cons, ih]
      obtain ⟨generated, outcome⟩ := head
      cases outcome with
      | error error => simp [Progress.note, unwritten?]
      | ok report => simp [List.filterMap_cons, Progress.note, unwritten?]

section Reports

variable {σ : Type} [Disk (StateM σ)] {options : GenerationOptions} {disk after : σ}
  {report : GenerationReport} {selection : Selection} {written : List Written}

/-- Every service has been tried. -/
theorem map_fst_attemptWrites (services : List GeneratedService) :
    (runOn (attemptWrites options services) disk).1.map Prod.fst = services := by
  rw [attemptWrites, runOn_bind, map_runOn_mapM fun _ _ => rfl]
  apply List.map_fst_zip
  let keeps (generated : GeneratedService) : StateM σ Bool :=
    TypeScript.keepsFirst options.outputDirectory options.replace generated.files
  have units : (runOn (services.mapM keeps) disk).1.map (fun _ => ()) =
      services.map fun _ => () := map_runOn_mapM (fun _ _ => rfl) services disk
  simpa using Nat.le_of_eq (congrArg List.length units).symm

/-- What came of writing the services of a selection in a run, if that was asked for. -/
inductive Writes (options : GenerationOptions) (selection : Selection) (disk : σ) :
    List Written → Prop
  | nothing (isDryRun : options.isDryRun = true) : Writes options selection disk []
  | services {begun : σ} (isDryRun : options.isDryRun = false)
      (made : runOn (makeDirectories options.outputDirectory).run disk = (.ok (), begun)) :
      Writes options selection disk (runOn (attemptWrites options selection.accepted) begun).1

theorem Writes.mem_accepted (writes : Writes options selection disk written) {entry : Written}
    (member : entry ∈ written) : entry.1 ∈ selection.accepted := by
  cases writes with
  | nothing => cases member
  | @services begun _ _ =>
      rw [← @map_fst_attemptWrites σ _ options begun selection.accepted]
      exact List.mem_map_of_mem member

theorem filterMap_unwritten?_eq_nil_iff :
    written.filterMap (unwritten? options) = [] ↔
      ∀ entry ∈ written, ∃ report, entry.2 = .ok report := by
  rw [List.filterMap_eq_nil_iff]
  refine forall_congr' fun entry => forall_congr' fun _ => ?_
  obtain ⟨generated, outcome⟩ := entry
  cases outcome with
  | error error => simp [unwritten?]
  | ok report => simp [unwritten?]

theorem failures_of_write {progress : Progress} {warnings : List String}
    (ran : runOn (write options selection).run disk = (.ok (progress, warnings), after)) :
    ∃ begun, runOn (makeDirectories options.outputDirectory).run disk = (.ok (), begun) ∧
      progress.failures = (runOn (attemptWrites options selection.accepted) begun).1.filterMap
        (unwritten? options) := by
  obtain ⟨⟨⟩, begun, ranDirectories, ran⟩ := runOn_bind_eq_ok.1 ran
  obtain ⟨written, stop, ranServices, ran⟩ := runOn_bind_eq_ok.1 ran
  obtain ⟨mapping, mapped, -, ran⟩ := runOn_bind_eq_ok.1 ran
  obtain ⟨aggregated, last, -, ran⟩ := runOn_bind_eq_ok.1 ran
  -- what comes after the services, the changelog in particular, can only add warnings
  have ended : progress.failures = written.failures := by
    dsimp only at ran
    split at ran
    all_goals
      obtain ⟨copied, _, -, ran⟩ := runOn_bind_eq_ok.1 ran
      obtain ⟨same, -⟩ := runOn_pure_eq_ok.1 ran
      obtain ⟨rfl, -⟩ := Prod.mk.inj same
      rfl
  obtain rfl : _ = written := congrArg Prod.fst (runOn_lift_eq_ok.1 ranServices)
  refine ⟨begun, runOn_require_eq_ok.1 ranDirectories, ?_⟩
  rw [ended, writeServices_eq, runOn_map, failures_foldl_note]
  rfl

/-- All services selected are reported. The failures are those of the selection and those met on
writing. -/
theorem report_of_carryOut
    (ran : runOn (carryOut options selection).run disk = (.ok report, after)) :
    report.services = selection.services ∧ ∃ written, Writes options selection disk written ∧
      report.failures = selection.failures ++ written.filterMap (unwritten? options) := by
  rw [carryOut] at ran
  split at ran
  · next isDryRun =>
    obtain ⟨rfl, -⟩ := runOn_pure_eq_ok.1 ran
    exact ⟨rfl, [], .nothing isDryRun, (List.append_nil _).symm⟩
  · next isDryRun =>
    obtain ⟨⟨progress, warnings⟩, stop, ranWrite, ran⟩ := runOn_bind_eq_ok.1 ran
    obtain ⟨rfl, -⟩ := runOn_pure_eq_ok.1 ran
    obtain ⟨begun, made, failures⟩ := failures_of_write ranWrite
    refine ⟨rfl, _, .services (Bool.eq_false_iff.2 isDryRun) made, ?_⟩
    exact congrArg (selection.failures ++ ·) failures

end Reports

end ODataClient.Generation
