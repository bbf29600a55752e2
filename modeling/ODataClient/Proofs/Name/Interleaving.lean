import ODataClient.Proofs.Name.Agreement
import ODataClient.Proofs.Name.Runs

/-!
# Operations on different scopes

Operations on one scope of a registry do not show in another: those addressed to a scope are
answered in a run as they are when nothing else is asked. So it does not matter how operations on
different scopes follow each other.
-/

namespace ODataClient.Name

/-- The operations that are addressed to one scope, in their order. An empty owner in the scope
stands for the service. -/
def addressedTo (scope : Scope) (operations : List Operation) : List Operation :=
  operations.filter (·.scope = scope)

namespace Registry

variable {covered : Scope → Prop} {registry first second : Registry} {request : Request}
  {operation : Operation} {operations : List Operation} {scope : Scope}

/-- The operations of a run that are addressed to one scope, each with its answer. -/
def historyIn (registry : Registry) (scope : Scope) (operations : List Operation) :
    List (Operation × Answer) :=
  (registry.history operations).filter (·.1.scope = scope)

theorem history_cons :
    registry.history (operation :: operations) =
      (operation, (registry.step operation).1) :: (registry.step operation).2.history operations :=
  rfl

theorem agreesOn_step (elsewhere : ¬ covered operation.scope) :
    registry.AgreesOn covered (registry.step operation).2 := by
  cases operation with
  | resolve request =>
      rw [step_resolve]
      split
      · next resolved => exact agreesOn_of_resolve elsewhere resolved
      · exact .refl registry
  | reserve scope name => exact agreesOn_reserve elsewhere
  | isTaken scope name => exact .refl registry
  | lookup slot => exact .refl registry

namespace AgreesOn

variable (agree : first.AgreesOn covered second) (service : first.service = second.service)

include agree service

theorem choose_eq (within : covered request.slot.scope) :
    first.choose request = second.choose request := by
  have taken := agree.isTaken request.slot.scope within
  simp only [Registry.choose, taken, service, agree.convention]

/-- Registries for one service that agree on a scope answer an operation on it alike, and agree
afterwards. -/
theorem step (within : covered operation.scope) :
    (first.step operation).1 = (second.step operation).1 ∧
      (first.step operation).2.AgreesOn covered (second.step operation).2 := by
  cases operation with
  | resolve request =>
      simp only [step_resolve, resolve_eq, agree.lookup request.slot within]
      cases second.lookup request.slot with
      | some name => exact ⟨rfl, agree⟩
      | none =>
          rw [agree.choose_eq service within]
          cases second.choose request with
          | error error => exact ⟨rfl, agree⟩
          | ok name => exact ⟨rfl, agree.assign⟩
  | reserve scope name => exact ⟨rfl, agree.reserve⟩
  | isTaken scope name =>
      exact ⟨congrArg Answer.taken (congrFun (agree.isTaken scope within) name), agree⟩
  | lookup slot => exact ⟨congrArg Answer.found (agree.lookup slot within), agree⟩

end AgreesOn

/-- A run goes in one scope as a run of the operations on that scope alone: by induction on the
operations, of which those addressed elsewhere keep the agreement of the two registries. -/
theorem AgreesOn.run (operations : List Operation) (agree : first.AgreesOn (· = scope) second)
    (service : first.service = second.service) :
    first.historyIn scope operations = second.history (addressedTo scope operations) ∧
      (first.run operations).2.AgreesOn (· = scope)
        (second.run (addressedTo scope operations)).2 := by
  induction operations generalizing first second with
  | nil => exact ⟨rfl, agree⟩
  | cons operation operations ih =>
      have served : (first.step operation).2.service = first.service := extends_step.service
      by_cases within : operation.scope = scope
      · obtain ⟨sameAnswer, further⟩ := agree.step service within
        have servedToo : (second.step operation).2.service = second.service := extends_step.service
        obtain ⟨sameRest, last⟩ := ih further (by rw [served, servedToo, service])
        have kept : addressedTo scope (operation :: operations) =
            operation :: addressedTo scope operations := by simp [addressedTo, within]
        rw [kept]
        refine ⟨?_, last⟩
        rw [history_cons, ← sameAnswer, ← sameRest]
        simp [historyIn, history_cons, within]
      · have further := (agreesOn_step within).symm.trans agree
        obtain ⟨sameRest, last⟩ := ih further (served.trans service)
        have left : addressedTo scope (operation :: operations) =
            addressedTo scope operations := by simp [addressedTo, within]
        rw [left]
        refine ⟨?_, last⟩
        rw [← sameRest]
        simp [historyIn, history_cons, within]

/-- In a run of a new registry, the operations addressed to one scope get the answers that they get
when they are carried out alone, in the same order, and the scope holds the same names afterwards.
So another run with the same operations on the scope, whatever comes between them, leads to the same
answers and the same names. -/
theorem run_keeps_scopes_apart (service : String) (convention : NamingConvention)
    (operations : List Operation) (scope : Scope) :
    let new := empty service convention
    let alone := addressedTo scope operations
    (new.historyIn scope operations = new.history alone ∧
      (∀ name, (new.run operations).2.isTaken scope name = (new.run alone).2.isTaken scope name) ∧
      ∀ slot, slot.scope = scope →
        (new.run operations).2.lookup slot = (new.run alone).2.lookup slot) ∧
    ∀ others, addressedTo scope others = alone →
      new.historyIn scope others = new.historyIn scope operations ∧
        ∀ slot, slot.scope = scope →
          (new.run others).2.lookup slot = (new.run operations).2.lookup slot := by
  intro new alone
  have goesAlone (others : List Operation) :=
    AgreesOn.run others (.refl new : new.AgreesOn (· = scope) new) rfl
  obtain ⟨history, agree⟩ := goesAlone operations
  refine ⟨⟨history, congrFun (agree.isTaken scope rfl), agree.lookup⟩, fun others same => ?_⟩
  obtain ⟨historyToo, agreeToo⟩ := goesAlone others
  rw [same] at historyToo agreeToo
  exact ⟨historyToo.trans history.symm, (agreeToo.trans agree.symm).lookup⟩

end Registry

end ODataClient.Name
