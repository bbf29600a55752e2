import ODataClient.Proofs.Name.Registry
import ODataClient.Proofs.Outcome

/-!
# Registries that agree

What a registry answers to a request depends on its convention and on the names of one scope. So two
registries that hold the same names in some scopes answer requests in these alike, whatever they
hold in others. If they are registries for the same service, they also fail alike. Of this kind are
registries that agree outside one space: what they are asked for in that space does not show
elsewhere.
-/

namespace ODataClient.Name.Registry

variable {covered : Scope → Prop} {space : NameSpace} {first second third later : Registry}
  {request : Request} {slot : Slot} {scope : Scope} {name : String}

/-- Two registries spell names alike and hold the same names in the scopes that are covered. -/
structure AgreesOn (covered : Scope → Prop) (first second : Registry) : Prop where
  convention : first.convention = second.convention
  isTaken : ∀ scope, covered scope → first.isTaken scope = second.isTaken scope
  lookup : ∀ slot, covered slot.scope → first.lookup slot = second.lookup slot

theorem agreesOn_empty {service other : String} {convention : NamingConvention} :
    (empty service convention).AgreesOn covered (empty other convention) :=
  ⟨rfl, fun _ _ => rfl, fun _ _ => rfl⟩

namespace AgreesOn

@[refl]
theorem refl (registry : Registry) : registry.AgreesOn covered registry :=
  ⟨rfl, fun _ _ => rfl, fun _ _ => rfl⟩

theorem symm (agree : first.AgreesOn covered second) : second.AgreesOn covered first where
  convention := agree.convention.symm
  isTaken scope within := (agree.isTaken scope within).symm
  lookup slot within := (agree.lookup slot within).symm

theorem trans (agree : first.AgreesOn covered second) (further : second.AgreesOn covered third) :
    first.AgreesOn covered third where
  convention := agree.convention.trans further.convention
  isTaken scope within := (agree.isTaken scope within).trans (further.isTaken scope within)
  lookup slot within := (agree.lookup slot within).trans (further.lookup slot within)

theorem reserve (agree : first.AgreesOn covered second) :
    (first.reserve scope name).AgreesOn covered (second.reserve scope name) where
  convention := agree.convention
  isTaken other within := by
    funext used
    rw [Bool.eq_iff_iff, isTaken_reserve, isTaken_reserve, agree.isTaken other within]
  lookup slot within := by rw [lookup_reserve, lookup_reserve, agree.lookup slot within]

theorem assign (agree : first.AgreesOn covered second) :
    (first.assign slot name).AgreesOn covered (second.assign slot name) where
  convention := agree.convention
  isTaken other within := by
    funext used
    rw [Bool.eq_iff_iff, isTaken_assign, isTaken_assign, agree.isTaken other within]
  lookup given within := by
    rw [lookup_assign, lookup_assign, agree.lookup given within]

end AgreesOn

/-- A name that is put into use in another scope does not show. -/
theorem agreesOn_reserve (elsewhere : ¬ covered scope) :
    first.AgreesOn covered (first.reserve scope name) where
  convention := rfl
  isTaken other within := by
    funext used
    have differ : other ≠ scope := fun same => elsewhere (same ▸ within)
    rw [Bool.eq_iff_iff, isTaken_reserve]
    simp [differ]
  lookup _ _ := lookup_reserve.symm

theorem agreesOn_assign (elsewhere : ¬ covered slot.scope) :
    first.AgreesOn covered (first.assign slot name) where
  convention := rfl
  isTaken other within := by
    funext used
    have differ : other ≠ slot.scope := fun same => elsewhere (same ▸ within)
    rw [Bool.eq_iff_iff, isTaken_assign]
    simp [differ]
  lookup given within := by
    have differ : given ≠ slot := fun same => elsewhere (same ▸ within)
    rw [lookup_assign, if_neg differ]

theorem agreesOn_of_resolve (elsewhere : ¬ covered request.slot.scope)
    (resolved : first.resolve request = .ok (name, later)) : first.AgreesOn covered later := by
  obtain ⟨-, rfl⟩ | ⟨-, -, rfl⟩ := resolve_eq_ok_iff.1 resolved
  · exact .refl later
  · exact agreesOn_assign elsewhere

namespace AgreesOn

variable (agree : first.AgreesOn covered second) (within : covered request.slot.scope)

include agree within

theorem choose (chosen : first.choose request = .ok name) :
    second.choose request = .ok name := by
  have taken := agree.isTaken request.slot.scope within
  simp only [Registry.choose, ← taken, ← agree.convention] at chosen ⊢
  cases explicit : request.explicit with
  | some wanted =>
      simp only [explicit] at chosen ⊢
      split at chosen
      · contradiction
      · next free => rw [if_neg free, chosen]
  | none =>
      simp only [explicit] at chosen ⊢
      split at chosen
      · exact chosen
      · contradiction

/-- What one registry answers, the other answers as well, and they agree afterwards. -/
theorem resolve (resolved : first.resolve request = .ok (name, later)) :
    ∃ last, second.resolve request = .ok (name, last) ∧ later.AgreesOn covered last := by
  have same := agree.lookup request.slot within
  obtain ⟨held, rfl⟩ | ⟨unnamed, chosen, rfl⟩ := resolve_eq_ok_iff.1 resolved
  · exact ⟨second, resolve_of_lookup (same ▸ held), agree⟩
  · refine ⟨second.assign request.slot name, ?_, agree.assign⟩
    exact resolve_eq_ok_iff.2 (.inr ⟨same ▸ unnamed, agree.choose within chosen, rfl⟩)

end AgreesOn

/-- Two registries hold the same names, except perhaps in one space. -/
structure AgreesOutside (space : NameSpace) (first second : Registry) : Prop where
  service : first.service = second.service
  convention : first.convention = second.convention
  isTaken : ∀ scope, scope.space ≠ space → first.isTaken scope = second.isTaken scope
  lookup : ∀ slot, slot.kind.space ≠ space → first.lookup slot = second.lookup slot

namespace AgreesOutside

theorem agreesOn (agree : first.AgreesOutside space second) :
    first.AgreesOn (·.space ≠ space) second :=
  ⟨agree.convention, agree.isTaken, agree.lookup⟩

theorem of_agreesOn (service : first.service = second.service)
    (agree : first.AgreesOn (·.space ≠ space) second) : first.AgreesOutside space second :=
  ⟨service, agree.convention, agree.isTaken, agree.lookup⟩

@[refl]
theorem refl (registry : Registry) : registry.AgreesOutside space registry :=
  .of_agreesOn rfl (.refl registry)

theorem symm (agree : first.AgreesOutside space second) : second.AgreesOutside space first :=
  .of_agreesOn agree.service.symm agree.agreesOn.symm

theorem trans (agree : first.AgreesOutside space second)
    (further : second.AgreesOutside space third) : first.AgreesOutside space third :=
  .of_agreesOn (agree.service.trans further.service) (agree.agreesOn.trans further.agreesOn)

theorem reserve (agree : first.AgreesOutside space second) :
    (first.reserve scope name).AgreesOutside space (second.reserve scope name) :=
  .of_agreesOn agree.service agree.agreesOn.reserve

theorem assign (agree : first.AgreesOutside space second) :
    (first.assign slot name).AgreesOutside space (second.assign slot name) :=
  .of_agreesOn agree.service agree.agreesOn.assign

end AgreesOutside

/-- A name that is given in the space left out does not show. -/
theorem agreesOutside_assign (inside : slot.kind.space = space) :
    (first.assign slot name).AgreesOutside space first :=
  .of_agreesOn rfl (agreesOn_assign fun outside => outside inside).symm

theorem agreesOutside_of_resolve (inside : request.slot.kind.space = space)
    (resolved : first.resolve request = .ok (name, second)) : second.AgreesOutside space first := by
  obtain ⟨-, rfl⟩ | ⟨-, -, rfl⟩ := resolve_eq_ok_iff.1 resolved
  · exact .refl second
  · exact agreesOutside_assign inside

namespace AgreesOutside

variable (agree : first.AgreesOutside space second)

include agree

theorem choose (outside : request.slot.kind.space ≠ space) :
    first.choose request = second.choose request := by
  have taken := agree.isTaken request.slot.scope outside
  simp only [Registry.choose, taken, agree.service, agree.convention]

/-- Registries that agree outside a space answer requests for other spaces alike, and agree in the
same way afterwards. -/
theorem resolve {apart : Prop} (outside : request.slot.kind.space ≠ space) :
    Outcome.Matched apart (fun answer other => answer.1 = other.1 ∧
      answer.2.AgreesOutside space other.2) (first.resolve request) (second.resolve request) := by
  rw [resolve_eq, resolve_eq, ← agree.lookup _ outside]
  cases first.lookup request.slot with
  | some name => exact .ok ⟨rfl, agree⟩
  | none =>
      rw [← agree.choose outside]
      cases first.choose request with
      | error error => exact .error error
      | ok name => exact .ok ⟨rfl, agree.assign⟩

/-- Requests for names of the space left out keep the agreement, whatever the answers are. -/
theorem resolve_inside {apart : Prop} {other : Request} (allowed : apart)
    (inside : request.slot.kind.space = space) (otherInside : other.slot.kind.space = space) :
    Outcome.Matched apart (fun answer other => answer.2.AgreesOutside space other.2)
      (first.resolve request) (second.resolve other) := by
  cases resolved : first.resolve request with
  | error error => exact .left allowed error _
  | ok answer =>
      cases resolvedToo : second.resolve other with
      | error error => exact .right allowed _ error
      | ok another =>
          have back := agreesOutside_of_resolve inside resolved
          exact .ok (back.trans (agree.trans (agreesOutside_of_resolve otherInside
            resolvedToo).symm))

end AgreesOutside

end ODataClient.Name.Registry
