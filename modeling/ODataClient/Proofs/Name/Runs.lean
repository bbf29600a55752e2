import ODataClient.Proofs.Name.Registry

/-!
# Runs of a registry keep names apart

What holds after any sequence of operations on a new registry: a name is in use exactly if it has
been reserved or given to a construct, constructs of one scope have different names, and whatever a
construct has been named it is named ever after.
-/

namespace ODataClient.Name

/-- Whether an operation with its answer puts a name into use in a scope. -/
def PutsIntoUse (scope : Scope) (name : String) : Operation × Answer → Prop
  | (.resolve request, .named answer) => request.slot.scope = scope ∧ answer = name
  | (.reserve reserved used, _) => reserved = scope ∧ used = name
  | _ => False

/-- A name that is in use in a scope once the operations of a new registry have been answered: a
type of the runtime, or a name that one of them puts into use. -/
def InUse (convention : NamingConvention) (history : List (Operation × Answer)) (scope : Scope)
    (name : String) : Prop :=
  (scope = { space := .types, owner := "" } ∧ name ∈ convention.runtimeTypes) ∨
    ∃ entry ∈ history, PutsIntoUse scope name entry

namespace Registry

variable {registry earlier later : Registry} {operation : Operation}
  {operations : List Operation} {scope : Scope} {slot : Slot} {name : String}

/-- The operations of a run, each with its answer. -/
def history (registry : Registry) (operations : List Operation) : List (Operation × Answer) :=
  operations.zip (registry.run operations).1

/-- A refused request leaves the registry as it was. -/
theorem step_resolve {request : Request} :
    registry.step (.resolve request) =
      match registry.resolve request with
      | .ok (name, next) => (.named name, next)
      | .error error => (.refused error, registry) := by
  simp only [step]
  cases answered : registry.resolve request with
  | ok answer => rfl
  | error error => simp only [opened_of_resolve answered]

/-- Carrying out one operation leaves what the registry held. -/
theorem extends_step : registry.Extends (registry.step operation).2 := by
  cases operation with
  | resolve request =>
      rw [step_resolve]
      split
      · next name next resolved => exact extends_of_resolve resolved
      · exact .refl registry
  | reserve scope used => exact extends_reserve
  | isTaken scope used => exact .refl registry
  | lookup slot => exact .refl registry

theorem extends_run : registry.Extends (registry.run operations).2 := by
  induction operations generalizing registry with
  | nil => exact .refl registry
  | cons operation operations ih => exact extends_step.trans ih

/-- A run goes on where the operations before it have led. -/
theorem run_append {first second : List Operation} :
    registry.run (first ++ second) =
      ((registry.run first).1 ++ ((registry.run first).2.run second).1,
        ((registry.run first).2.run second).2) := by
  induction first generalizing registry with
  | nil => rfl
  | cons operation first ih => simp only [List.cons_append, run, ih]

theorem Consistent.step (consistent : registry.Consistent) :
    (registry.step operation).2.Consistent := by
  cases operation with
  | resolve request =>
      rw [step_resolve]
      split
      · next name next resolved => exact consistent.resolve resolved
      · exact consistent
  | reserve scope used => exact consistent.reserve
  | isTaken scope used => exact consistent
  | lookup slot => exact consistent

theorem Consistent.run (consistent : registry.Consistent) :
    (registry.run operations).2.Consistent := by
  induction operations generalizing registry with
  | nil => exact consistent
  | cons operation operations ih => exact ih consistent.step

/-- One operation puts nothing into use but what it answers or reserves. A construct that has a
name already is no exception: that name is in use. -/
theorem isTaken_step (consistent : registry.Consistent) :
    (registry.step operation).2.isTaken scope name = true ↔
      registry.isTaken scope name = true ∨
        PutsIntoUse scope name (operation, (registry.step operation).1) := by
  cases operation with
  | resolve request =>
      rw [step_resolve]
      split
      · next answer next resolved =>
        obtain ⟨held, rfl⟩ | ⟨-, -, rfl⟩ := resolve_eq_ok_iff.1 resolved
        · simp only [PutsIntoUse, iff_self_or]
          rintro ⟨rfl, rfl⟩
          exact consistent.isTaken request.slot answer held
        · rw [isTaken_assign, or_comm, eq_comm (a := scope), eq_comm (a := name)]
          rfl
      · simp [PutsIntoUse]
  | reserve reserved used =>
      rw [Registry.step, isTaken_reserve, or_comm, eq_comm (a := scope), eq_comm (a := name)]
      rfl
  | isTaken asked used => simp [Registry.step, PutsIntoUse]
  | lookup slot => simp [Registry.step, PutsIntoUse]

theorem isTaken_run (consistent : registry.Consistent) :
    (registry.run operations).2.isTaken scope name = true ↔
      registry.isTaken scope name = true ∨
        ∃ entry ∈ registry.history operations, PutsIntoUse scope name entry := by
  induction operations generalizing registry with
  | nil => simp [run, history]
  | cons operation operations ih =>
      simp only [run, history, List.zip_cons_cons, List.mem_cons, exists_eq_or_imp]
      rw [ih consistent.step, isTaken_step consistent, or_assoc]
      rfl

/-- A construct that an operation of a run has been answered with keeps its name to the end. -/
theorem lookup_run_of_named {request : Request}
    (named : (.resolve request, .named name) ∈ registry.history operations) :
    (registry.run operations).2.lookup request.slot = some name := by
  induction operations generalizing registry with
  | nil => simp [history] at named
  | cons operation operations ih =>
      simp only [history, run, List.zip_cons_cons, List.mem_cons, Prod.mk.injEq] at named
      obtain ⟨rfl, answered⟩ | named := named
      · have resolved : (registry.step (.resolve request)).2.lookup request.slot = some name := by
          simp only [step] at answered ⊢
          split at answered
          · next given next resolved =>
            cases answered
            exact lookup_of_resolve resolved
          · contradiction
        have kept : (registry.step (.resolve request)).2.Extends
            (registry.run (.resolve request :: operations)).2 := extends_run
        exact kept.lookup request.slot name resolved
      · exact ih named

/-- A construct only gets a name by a request for it. -/
theorem lookup_step_cases (held : (registry.step operation).2.lookup slot = some name) :
    registry.lookup slot = some name ∨
      ∃ request : Request, operation = .resolve request ∧ request.slot = slot ∧
        (registry.step operation).1 = .named name ∧ registry.choose request = .ok name := by
  cases operation with
  | resolve request =>
      cases resolved : registry.resolve request with
      | error error =>
          left
          simpa [step_resolve, resolved] using held
      | ok answer =>
          rcases answer with ⟨given, next⟩
          simp only [step_resolve, resolved] at held ⊢
          rcases resolve_eq_ok_iff.1 resolved with ⟨-, rfl⟩ | ⟨-, chosen, rfl⟩
          · exact .inl held
          · rw [lookup_assign] at held
            split at held
            · next same =>
              cases held
              exact .inr ⟨request, rfl, same.symm, rfl, chosen⟩
            · exact .inl held
  | reserve scope used =>
      left
      simpa [step] using held
  | isTaken scope used => exact .inl held
  | lookup other => exact .inl held

/-- A name that a request is answered with has been chosen in the same run for a request for the
same construct, unless the construct had it before. -/
theorem exists_choose_of_named {request : Request}
    (named : (.resolve request, .named name) ∈ registry.history operations) :
    registry.lookup request.slot = some name ∨
      ∃ first earlier, (.resolve first, .named name) ∈ registry.history operations ∧
        first.slot = request.slot ∧ earlier.convention = registry.convention ∧
        choose earlier first = .ok name := by
  induction operations generalizing registry with
  | nil => simp [history] at named
  | cons operation operations ih =>
      have grown : registry.Extends (registry.step operation).2 := extends_step
      simp only [history, run, List.zip_cons_cons, List.mem_cons, Prod.mk.injEq] at named ⊢
      rcases named with ⟨rfl, answered⟩ | named
      · cases resolved : registry.resolve request with
        | error error => simp [step_resolve, resolved] at answered
        | ok answer =>
            rcases answer with ⟨given, next⟩
            simp only [step_resolve, resolved, Answer.named.injEq] at answered ⊢
            subst answered
            rcases resolve_eq_ok_iff.1 resolved with ⟨held, -⟩ | ⟨-, chosen, -⟩
            · exact .inl held
            · exact .inr ⟨request, registry, .inl ⟨rfl, rfl⟩, rfl, rfl, chosen⟩
      · rcases ih named with held | ⟨first, earlier, isEntry, same, spelled, chosen⟩
        · rcases lookup_step_cases held with held | ⟨first, rfl, same, answered, chosen⟩
          · exact .inl held
          · exact .inr ⟨first, registry, .inl ⟨rfl, answered.symm⟩, same, rfl, chosen⟩
        · exact .inr ⟨first, earlier, .inr isEntry, same, spelled.trans grown.convention, chosen⟩

/-- After any run of a new registry: constructs of one scope have different names; exactly what has
been reserved or answered, besides the types of the runtime, is in use, and it stays in use; a
construct without a name never gets one that is in use; and one that has been named is given that
name ever after, whatever is asked for. -/
theorem run_keeps_names_apart (service : String) (convention : NamingConvention)
    (before after : List Operation) :
    let new := empty service convention
    let registry := (new.run before).2
    let last := (registry.run after).2
    let inUse := InUse convention (new.history before)
    (∀ first second name, first.scope = second.scope →
      registry.lookup first = some name → registry.lookup second = some name → first = second) ∧
    (∀ scope name, (registry.isTaken scope name = true ↔ inUse scope name) ∧
      (inUse scope name → last.isTaken scope name = true)) ∧
    (∀ request name, registry.lookup request.slot = none →
      (registry.step (.resolve request)).1 = .named name → ¬ inUse request.slot.scope name) ∧
    (∀ request name, (.resolve request, .named name) ∈ new.history before →
      ∀ again : Request, again.slot = request.slot →
        last.lookup again.slot = some name ∧
          last.step (.resolve again) = (.named name, last)) := by
  intro new registry last inUse
  have consistent : registry.Consistent := (consistent_empty service convention).run
  have taken (scope : Scope) (name : String) :
      registry.isTaken scope name = true ↔ inUse scope name := by
    rw [isTaken_run (consistent_empty service convention), isTaken_empty]
    rfl
  refine ⟨consistent.apart, ?_, ?_, ?_⟩
  · intro scope name
    refine ⟨taken scope name, fun used => ?_⟩
    exact extends_run.isTaken scope name ((taken scope name).2 used)
  · intro request name unnamed answered used
    have occupied := (taken request.slot.scope name).2 used
    simp only [step] at answered
    split at answered
    · next given next resolved =>
      cases answered
      obtain ⟨held, -⟩ | ⟨-, chosen, -⟩ := resolve_eq_ok_iff.1 resolved
      · simp [unnamed] at held
      · simp [isTaken_of_choose chosen] at occupied
    · contradiction
  · intro request name named again same
    have held : last.lookup again.slot = some name := by
      rw [same]
      exact extends_run.lookup request.slot name (lookup_run_of_named named)
    refine ⟨held, ?_⟩
    simp [step, resolve_of_lookup held]

end Registry

end ODataClient.Name
