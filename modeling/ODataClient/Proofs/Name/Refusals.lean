import ODataClient.Proofs.Name.Runs
import ODataClient.TypeScript.Naming

/-!
# Refused requests leave no trace

The scope of a request is opened before it is known whether a name can be given. A refusal needs a
name that is in use there, though, so that the scope has been open before: a refused request changes
nothing, and a run goes as if it had never been made.
-/

namespace ODataClient.Name

/-- Whether a request is refused. -/
def Answer.isRefused : Answer → Bool
  | .refused _ => true
  | .named _ | .reserved | .taken _ | .found _ => false

namespace Registry

variable {registry : Registry} {operation : Operation}

theorem step_of_isRefused (refused : (registry.step operation).1.isRefused = true) :
    (registry.step operation).2 = registry := by
  cases operation with
  | resolve request =>
      rw [step_resolve] at refused ⊢
      split at refused
      · contradiction
      · rfl
  | reserve scope name => contradiction
  | isTaken scope name => contradiction
  | lookup slot => contradiction

/-- After any run of a new registry, a request that is refused leaves the registry as it is: the
same names are in use, constructs have the same names, and whatever is asked for afterwards is
answered as if the request had not been made. -/
theorem run_forgets_refused (service : String) (convention : NamingConvention)
    (before : List Operation) (request : Request) (error : NameError)
    (refused : (((empty service convention).run before).2.step (.resolve request)).1 =
      .refused error) :
    let new := empty service convention
    let registry := (new.run before).2
    let later := (registry.step (.resolve request)).2
    later = registry ∧
      (∀ scope name, later.isTaken scope name = registry.isTaken scope name) ∧
      (∀ slot, later.lookup slot = registry.lookup slot) ∧
      ∀ after, (later.run after).1 = (registry.run after).1 ∧
        ∃ answers, (new.run (before ++ after)).1 = (new.run before).1 ++ answers ∧
          (new.run (before ++ .resolve request :: after)).1 =
            (new.run before).1 ++ .refused error :: answers := by
  intro new registry later
  have same : later = registry := by
    apply step_of_isRefused
    rw [refused]
    rfl
  refine ⟨same, fun scope name => ?_, fun slot => ?_, fun after => ⟨?_, ?_⟩⟩
  · rw [same]
  · rw [same]
  · rw [same]
  · refine ⟨(registry.run after).1, ?_, ?_⟩
    · rw [run_append]
    · rw [run_append, run]
      change _ ++ (registry.step (.resolve request)).1 :: (later.run after).1 = _
      rw [refused, same]

/-- The directory of a service is asked for under a name that is reserved. -/
theorem run_forgets_refused_directory :
    let reserving := Operation.reserve { space := .directories, owner := "" } "taken"
    let registry := ((empty "API_TEST_SRV" TypeScript.naming).run [reserving]).2
    let request := Request.directory "TEST_SERVICE" (some "taken")
    (registry.step (.resolve request)).1 =
        .refused (.overrideTaken "API_TEST_SRV" .directory "TEST_SERVICE" "taken") ∧
      (registry.step (.resolve request)).2 = registry ∧
      ∀ after, ((registry.step (.resolve request)).2.run after).1 = (registry.run after).1 := by
  intro reserving registry request
  have refused : (registry.step (.resolve request)).1 =
      .refused (.overrideTaken "API_TEST_SRV" .directory "TEST_SERVICE" "taken") := by
    decide +kernel
  obtain ⟨same, -, -, answers⟩ := run_forgets_refused _ _ _ _ _ refused
  exact ⟨refused, same, fun after => (answers after).1⟩

end Registry

end ODataClient.Name
