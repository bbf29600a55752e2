import Mathlib.Data.List.Induction
import Mathlib.Logic.Relation
import ODataClient.Generation.Plan
import ODataClient.Proofs.Dictionary

/-!
# First come, first served

Services are selected one after the other, and a directory goes to the first service that leads to
it. So what becomes of an attempt depends on the services that came before it and on nothing else:
a service that is refused, be it that its client could not be generated or that its directory was in
use, leaves no trace but its failure.
-/

namespace ODataClient.Selection

/-- The services that attempts came to. -/
def successes (attempts : List Attempt) : List GeneratedService :=
  attempts.filterMap fun attempt => attempt.2.toOption

/-- What is reported of an attempt that did not succeed. -/
def failure? : Attempt → Option ServiceFailure
  | (source, .error fault) => some { fileName := source.fileName, path := source.path, fault }
  | (_, .ok _) => none

/-- The first service with a directory. -/
def holder? (attempts : List Attempt) (directory : String) : Option GeneratedService :=
  (successes attempts).find? (·.service.directoryName = directory)

/-- What becomes of an attempt behind others: it keeps its service unless an earlier attempt came to
one with the same directory. -/
def verdict (earlier : List Attempt) : Attempt → Except ServiceFault GeneratedService
  | (_, .error fault) => .error fault
  | (_, .ok generated) =>
    match holder? earlier generated.service.directoryName with
    | none => .ok generated
    | some first => .error <| .duplicateDirectory {
        service := generated.service.fileName
        directory := generated.service.directoryName
        first := first.service.fileName }

/-- Attempts with what becomes of each behind those before it. -/
def judge (earlier : List Attempt) : List Attempt → List Attempt
  | [] => []
  | attempt :: later => (attempt.1, verdict earlier attempt) :: judge (earlier ++ [attempt]) later

variable {earlier others attempts before after : List Attempt} {attempt : Attempt}
  {generated : GeneratedService} {source : ServiceSource} {directory : String}

section Verdicts

@[simp]
theorem successes_append :
    successes (earlier ++ others) = successes earlier ++ successes others := by
  simp [successes]

theorem mem_successes : generated ∈ successes attempts ↔
    ∃ source, (source, .ok generated) ∈ attempts := by
  simp only [successes, List.mem_filterMap]
  constructor
  · rintro ⟨⟨source, outcome⟩, member, same⟩
    cases outcome with
    | error fault => cases same
    | ok other =>
        cases same
        exact ⟨source, member⟩
  · rintro ⟨source, member⟩
    exact ⟨_, member, rfl⟩

theorem holder?_append : holder? (earlier ++ others) directory =
    (holder? earlier directory).or (holder? others directory) := by
  rw [holder?, successes_append, List.find?_append, holder?, holder?]

@[simp]
theorem holder?_error {fault : ServiceFault} :
    holder? [(source, .error fault)] directory = none :=
  rfl

@[simp]
theorem holder?_ok : holder? [(source, .ok generated)] directory =
    if generated.service.directoryName = directory then some generated else none := by
  by_cases same : generated.service.directoryName = directory <;>
    simp [holder?, successes, Except.toOption, same]

theorem verdict_eq_ok_iff {outcome : Except ServiceFault GeneratedService} :
    verdict earlier (source, outcome) = .ok generated ↔ outcome = .ok generated ∧
      ∀ other ∈ successes earlier,
        other.service.directoryName ≠ generated.service.directoryName := by
  cases outcome with
  | error fault => simp [verdict]
  | ok made =>
      have free : holder? earlier made.service.directoryName = none ↔
          ∀ other ∈ successes earlier,
            other.service.directoryName ≠ made.service.directoryName := by
        simp [holder?, List.find?_eq_none]
      cases held : holder? earlier made.service.directoryName with
      | none =>
          simp only [verdict, held, Except.ok.injEq, iff_self_and]
          rintro rfl
          exact free.1 held
      | some first =>
          simp only [verdict, held, reduceCtorEq, Except.ok.injEq, false_iff, not_and]
          rintro rfl apart
          rw [free.2 apart] at held
          cases held

theorem judge_append : judge earlier (before ++ after) =
    judge earlier before ++ judge (earlier ++ before) after := by
  induction before generalizing earlier with
  | nil => simp [judge]
  | cons attempt before ih => simp [judge, ih]

theorem map_fst_judge : (judge earlier attempts).map Prod.fst = attempts.map Prod.fst := by
  induction attempts generalizing earlier with
  | nil => rfl
  | cons attempt attempts ih => rw [judge, List.map_cons, List.map_cons, ih]

/-- Of those that came before, only the first with each directory counts. -/
theorem judge_congr (same : ∀ directory, holder? earlier directory = holder? others directory) :
    judge earlier attempts = judge others attempts := by
  -- the first holders stay the same when one more attempt comes behind both
  induction attempts generalizing earlier others with
  | nil => rfl
  | cons attempt attempts ih =>
      obtain ⟨source, outcome⟩ := attempt
      have sameVerdict : verdict earlier (source, outcome) = verdict others (source, outcome) := by
        cases outcome with
        | error fault => rfl
        | ok generated => simp only [verdict, same]
      have sameLater (directory : String) : holder? (earlier ++ [(source, outcome)]) directory =
          holder? (others ++ [(source, outcome)]) directory := by
        rw [holder?_append, holder?_append, same]
      rw [judge, judge, sameVerdict, ih sameLater]

/-- A service that is refused holds no directory. -/
theorem holder?_append_of_refused {fault : ServiceFault}
    (refused : verdict earlier attempt = .error fault) (directory : String) :
    holder? (earlier ++ [attempt]) directory = holder? earlier directory := by
  obtain ⟨source, outcome⟩ := attempt
  rw [holder?_append]
  cases outcome with
  | error fault => rw [holder?_error, Option.or_none]
  | ok generated =>
      cases held : holder? earlier directory with
      | some first => rw [Option.some_or]
      | none =>
          have other : generated.service.directoryName ≠ directory := by
            rintro rfl
            simp [verdict, held] at refused
          rw [holder?_ok, if_neg other, Option.none_or]

end Verdicts

section Runs

/-- What has been selected after some attempts. -/
structure Tracks (attempts : List Attempt) (selection : Selection) : Prop where
  claims : ∀ directory, Dictionary.get? selection.claims directory =
    (holder? attempts directory).map (·.service.fileName)
  accepted : selection.accepted = successes (judge [] attempts)
  failures : selection.failures = (judge [] attempts).filterMap failure?

theorem judge_concat : judge [] (attempts ++ [attempt]) =
    judge [] attempts ++ [(attempt.1, verdict attempts attempt)] := by
  rw [judge_append]
  rfl

theorem Tracks.reject {selection : Selection} {fault : ServiceFault}
    (tracks : Tracks attempts selection) (refused : verdict attempts attempt = .error fault) :
    Tracks (attempts ++ [attempt]) (selection.reject attempt.1 fault) := by
  obtain ⟨claims, accepted, failures⟩ := tracks
  constructor
  · intro directory
    rw [holder?_append_of_refused refused]
    exact claims directory
  · rw [judge_concat, successes_append, refused]
    simp [Selection.reject, accepted, successes, Except.toOption]
  · rw [judge_concat, List.filterMap_append, refused]
    simp [Selection.reject, failures, failure?]

theorem Tracks.accept {selection : Selection} (tracks : Tracks attempts selection)
    (free : holder? attempts generated.service.directoryName = none) :
    Tracks (attempts ++ [(source, .ok generated)]) { selection with
      claims := Dictionary.insert generated.service.directoryName generated.service.fileName
        selection.claims
      accepted := selection.accepted ++ [generated] } := by
  obtain ⟨claims, accepted, failures⟩ := tracks
  have kept : verdict attempts (source, .ok generated) = .ok generated := by
    simp only [verdict, free]
  constructor
  · intro directory
    rw [Dictionary.get?_insert, claims, holder?_append, holder?_ok]
    by_cases same : directory = generated.service.directoryName
    · subst same
      simp [free]
    · rw [if_neg same, if_neg (Ne.symm same), Option.or_none]
  · rw [judge_concat, successes_append, kept, ← accepted]
    rfl
  · rw [judge_concat, List.filterMap_append, kept, failures]
    simp [failure?]

theorem Tracks.add {selection : Selection} (tracks : Tracks attempts selection)
    (attempt : Attempt) : Tracks (attempts ++ [attempt]) (selection.add attempt) := by
  obtain ⟨source, outcome⟩ := attempt
  cases outcome with
  | error fault => exact tracks.reject rfl
  | ok generated =>
      have claimed := tracks.claims generated.service.directoryName
      cases held : holder? attempts generated.service.directoryName with
      | some first =>
          rw [held, Option.map_some] at claimed
          simp only [Selection.add, DirectoryClaims.claim, claimed]
          exact tracks.reject (by simp only [verdict, held])
      | none =>
          rw [held, Option.map_none] at claimed
          simp only [Selection.add, DirectoryClaims.claim, claimed]
          exact tracks.accept held

theorem tracks_ofAttempts (attempts : List Attempt) : Tracks attempts (ofAttempts attempts) := by
  induction attempts using List.reverseRecOn with
  | nil => exact ⟨fun _ => rfl, rfl, rfl⟩
  | append_singleton attempts attempt ih =>
      rw [ofAttempts, List.foldl_append]
      exact ih.add attempt

theorem mem_judge_iff {outcome : Except ServiceFault GeneratedService} :
    (source, outcome) ∈ judge earlier attempts ↔ ∃ before result after,
      attempts = before ++ (source, result) :: after ∧
        outcome = verdict (earlier ++ before) (source, result) := by
  constructor
  · intro member
    induction attempts generalizing earlier with
    | nil => cases member
    | cons attempt attempts ih =>
        obtain same | later := List.mem_cons.1 member
        · obtain ⟨rfl, rfl⟩ := Prod.mk.inj same
          exact ⟨[], attempt.2, attempts, rfl, by rw [List.append_nil]⟩
        · obtain ⟨before, result, after, rfl, judged⟩ := ih later
          refine ⟨attempt :: before, result, after, rfl, ?_⟩
          rwa [List.append_assoc] at judged
  · rintro ⟨before, result, after, rfl, rfl⟩
    rw [judge_append, judge]
    exact List.mem_append_right _ List.mem_cons_self

theorem mem_accepted_iff : generated ∈ (ofAttempts attempts).accepted ↔
    ∃ before source after, attempts = before ++ (source, .ok generated) :: after ∧
      ∀ other ∈ successes before,
        other.service.directoryName ≠ generated.service.directoryName := by
  rw [(tracks_ofAttempts attempts).accepted, mem_successes]
  constructor
  · rintro ⟨source, member⟩
    obtain ⟨before, result, after, split, judged⟩ := mem_judge_iff.1 member
    obtain ⟨rfl, apart⟩ := verdict_eq_ok_iff.1 judged.symm
    exact ⟨before, source, after, split, apart⟩
  · rintro ⟨before, source, after, split, apart⟩
    have kept : verdict before (source, .ok generated) = .ok generated :=
      verdict_eq_ok_iff.2 ⟨rfl, apart⟩
    exact ⟨source, mem_judge_iff.2 ⟨before, _, after, split, kept.symm⟩⟩

theorem mem_successes_of_accepted (accepted : generated ∈ (ofAttempts attempts).accepted) :
    generated ∈ successes attempts := by
  obtain ⟨before, source, after, rfl, -⟩ := mem_accepted_iff.1 accepted
  exact mem_successes.2 ⟨source, List.mem_append_right _ List.mem_cons_self⟩

theorem accepted_concat : (ofAttempts (attempts ++ [attempt])).accepted =
    (ofAttempts attempts).accepted ++ successes [(attempt.1, verdict attempts attempt)] := by
  rw [(tracks_ofAttempts _).accepted, (tracks_ofAttempts _).accepted, judge_concat,
    successes_append]

/-- No two services are accepted for one directory. -/
theorem nodup_directories (attempts : List Attempt) :
    ((ofAttempts attempts).services.map (·.directoryName)).Nodup := by
  rw [Selection.services, List.map_map]
  induction attempts using List.reverseRecOn with
  | nil => exact List.nodup_nil
  | append_singleton attempts attempt ih =>
      rw [accepted_concat]
      cases judged : verdict attempts attempt with
      | error fault =>
          have none : successes [(attempt.1, .error fault)] = [] := rfl
          rwa [none, List.append_nil]
      | ok generated =>
          have one : successes [(attempt.1, .ok generated)] = [generated] := rfl
          rw [one, List.map_append, List.map_singleton, ← List.concat_eq_append]
          refine ih.concat fun taken => ?_
          obtain ⟨other, accepted, same⟩ := List.mem_map.1 taken
          obtain ⟨-, apart⟩ := verdict_eq_ok_iff.1 judged
          exact apart other (mem_successes_of_accepted accepted) same

end Runs

section Isolation

/-- One sequence of attempts is another with one more in it, which is refused where it stands. -/
inductive Inserts : List Attempt → List Attempt → Prop where
  | refused {before after : List Attempt} {attempt : Attempt} {fault : ServiceFault}
      (refused : verdict before attempt = .error fault) :
      Inserts (before ++ after) (before ++ attempt :: after)

/-- Two selections lead to the same packages and the same files beside them. -/
structure YieldsSame (selection other : Selection) : Prop where
  accepted : other.accepted = selection.accepted
  services : other.services = selection.services
  files : other.accepted.map (·.files) = selection.accepted.map (·.files)
  warnings : other.warnings = selection.warnings
  mapping : other.mappingText? = selection.mappingText?
  aggregator (aggregator : Aggregator) (options : TypeScript.PackageOptions) :
    other.aggregatorFile aggregator options = selection.aggregatorFile aggregator options

/-- All that is generated is generated for the services accepted. -/
theorem YieldsSame.of_accepted {selection other : Selection}
    (same : other.accepted = selection.accepted) : YieldsSame selection other := by
  have services : other.services = selection.services := by rw [Selection.services, same]; rfl
  constructor
  · exact same
  · exact services
  · rw [same]
  · rw [Selection.warnings, same, Selection.warnings]
  · rw [mappingText?, same, services, mappingText?]
  · intro aggregator options
    rw [aggregatorFile, services, aggregatorFile]

theorem accepted_of_inserts (inserts : Inserts attempts others) :
    (ofAttempts others).accepted = (ofAttempts attempts).accepted := by
  obtain @⟨before, after, attempt, fault, refused⟩ := inserts
  have others : judge [] (before ++ attempt :: after) =
      judge [] before ++ (attempt.1, .error fault) :: judge before after := by
    rw [judge_append, judge, List.nil_append, refused,
      judge_congr (holder?_append_of_refused refused)]
  have attempts : judge [] (before ++ after) = judge [] before ++ judge before after := by
    rw [judge_append, List.nil_append]
  rw [(tracks_ofAttempts _).accepted, (tracks_ofAttempts _).accepted, others, attempts,
    successes_append, successes_append]
  rfl

theorem accepted_of_eqvGen (related : Relation.EqvGen Inserts attempts others) :
    (ofAttempts others).accepted = (ofAttempts attempts).accepted := by
  induction related with
  | rel attempts others inserts => exact accepted_of_inserts inserts
  | refl attempts => rfl
  | symm attempts others _ ih => exact ih.symm
  | trans first second third _ _ ih₁ ih₂ => exact ih₂.trans ih₁

/-- Each service is either accepted or reported as a failure, as it fares behind those before it.
Sequences that come from each other by putting in or leaving out services that are refused, at any
places, yield the same. -/
theorem isolates_ofAttempts (attempts : List Attempt) :
    (ofAttempts attempts).accepted = successes (judge [] attempts) ∧
    (∀ generated, generated ∈ (ofAttempts attempts).accepted ↔
      ∃ before source after, attempts = before ++ (source, .ok generated) :: after ∧
        ∀ other ∈ successes before,
          other.service.directoryName ≠ generated.service.directoryName) ∧
    (ofAttempts attempts).failures = (judge [] attempts).filterMap failure? ∧
    (judge [] attempts).map Prod.fst = attempts.map Prod.fst ∧
    ∀ others, Relation.EqvGen Inserts attempts others →
      YieldsSame (ofAttempts attempts) (ofAttempts others) := by
  refine ⟨(tracks_ofAttempts attempts).accepted, fun _ => mem_accepted_iff,
    (tracks_ofAttempts attempts).failures, map_fst_judge, ?_⟩
  intro others related
  exact .of_accepted (accepted_of_eqvGen related)

/-- An attempt that comes to a service with nothing in it and the directory `shop`. -/
def shopAttempt (fileName : String) : Attempt :=
  let service : Service :=
    { ns := "Shop", fileName, directoryName := "shop", npmPackageName := "shop"
      servicePath := "/shop", className := "Shop", moduleName := "shop", documentationUrl := none
      entities := [], complexTypes := [], functionImports := [] }
  ({ path := fileName ++ ".edmx", fileName }, .ok { service, files := [], warnings := [] })

/-- Of two services for one directory, the second yields nothing. -/
theorem yieldsSame_shops :
    Relation.EqvGen Inserts [shopAttempt "North"] [shopAttempt "North", shopAttempt "South"] ∧
      YieldsSame (ofAttempts [shopAttempt "North"])
        (ofAttempts [shopAttempt "North", shopAttempt "South"]) := by
  have refused : verdict [shopAttempt "North"] (shopAttempt "South") =
      .error (.duplicateDirectory
        { service := "South", directory := "shop", first := "North" }) := rfl
  have related : Relation.EqvGen Inserts [shopAttempt "North"]
      [shopAttempt "North", shopAttempt "South"] :=
    .rel _ _ (@Inserts.refused [shopAttempt "North"] [] _ _ refused)
  obtain ⟨-, -, -, -, isolated⟩ := isolates_ofAttempts [shopAttempt "North"]
  exact ⟨related, isolated _ related⟩

end Isolation

end ODataClient.Selection
