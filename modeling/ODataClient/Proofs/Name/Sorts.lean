import ODataClient.Proofs.Name.Growth
import ODataClient.Proofs.Name.Interleaving

/-!
# Operations of one sort

What is known of a registry after operations of one sort only. If all of them are addressed to other
scopes, a scope is as it was before. If the names of one kind are all asked for by their keys, they
are spelled after these.
-/

namespace ODataClient.Name

/-- Whether an operation, if it asks for a name of the kind, leaves it to be made from the key. -/
def Operation.IsKeyed (kind : NameKind) : Operation → Prop
  | resolve request =>
    request.slot.kind = kind → request.explicit = none ∧ request.source = request.slot.key
  | _ => True

namespace Registry

variable {registry : Registry} {operations : List Operation} {scope : Scope} {slot : Slot}
  {name : String}

/-- Operations that are addressed to other scopes do not show in a scope. -/
theorem agreesOn_run (elsewhere : ∀ operation ∈ operations, operation.scope ≠ scope) :
    registry.AgreesOn (· = scope) (registry.run operations).2 := by
  have nothing : addressedTo scope operations = [] :=
    List.filter_eq_nil_iff.2 fun operation member => by simpa using elsewhere operation member
  have alone := (AgreesOn.run operations (.refl registry : registry.AgreesOn (· = scope) _) rfl).2
  rw [nothing] at alone
  exact alone.symm

theorem Withholds.step {operation : Operation} (withholds : registry.Withholds scope name) :
    (registry.step operation).2.Withholds scope name := by
  cases operation with
  | resolve request =>
      rw [step_resolve]
      split
      · next resolved => exact withholds.resolve resolved
      · exact withholds
  | reserve scope used => exact withholds.reserve
  | isTaken scope used => exact withholds
  | lookup slot => exact withholds

/-- A name that is withheld stays so, whatever a registry is asked for. -/
theorem Withholds.run (withholds : registry.Withholds scope name) :
    (registry.run operations).2.Withholds scope name := by
  induction operations generalizing registry with
  | nil => exact withholds
  | cons operation operations ih => exact ih withholds.step

/-- A name that is made from a key is a variant of what the convention makes of it. -/
theorem mem_variants_of_run (keyed : ∀ operation ∈ operations, operation.IsKeyed slot.kind)
    (unnamed : registry.lookup slot = none)
    (held : (registry.run operations).2.lookup slot = some name) :
    name ∈ variants (registry.convention.identifier slot.key slot.kind) := by
  induction operations generalizing registry with
  | nil => simp [run, unnamed] at held
  | cons operation operations ih =>
      rw [List.forall_mem_cons] at keyed
      have grown : registry.Extends (registry.step operation).2 := extends_step
      cases given : (registry.step operation).2.lookup slot with
      | none =>
          have member := ih keyed.2 given held
          rwa [grown.convention] at member
      | some first =>
          have further : (registry.step operation).2.Extends
              ((registry.step operation).2.run operations).2 :=
            extends_run
          have kept := further.lookup slot first given
          obtain rfl : first = name := Option.some.inj (kept.symm.trans held)
          rcases lookup_step_cases given with before | ⟨request, rfl, rfl, -, chosen⟩
          · simp [unnamed] at before
          · obtain ⟨derived, source⟩ := keyed.1 rfl
            rw [← source]
            exact mem_variants_of_choose derived chosen

end Registry

end ODataClient.Name
