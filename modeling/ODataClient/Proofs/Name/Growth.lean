import ODataClient.Proofs.Name.Registry
import Mathlib.Data.List.Nodup

/-!
# Growth of a registry

What a registry that has grown out of a fresh one says about its names: no two constructs of a scope
share one, none is one that the runtime needs, and all but those of directories are spelled as the
convention has it.
-/

namespace ODataClient.Name

/-- Whether the spelling of a name is left to the convention, as it is for all but directories. -/
def Request.IsConventional (request : Request) : Prop :=
  request.explicit = none ∨ request.slot.kind = .directory

/-- Items have the same name exactly if they have the same key. -/
def AreNamedApart {α : Type} (items : List α) (keyOf nameOf : α → String) : Prop :=
  ∀ first ∈ items, ∀ second ∈ items, nameOf first = nameOf second ↔ keyOf first = keyOf second

theorem AreNamedApart.nodup_iff {α : Type} {items : List α} {keyOf nameOf : α → String}
    (apart : AreNamedApart items keyOf nameOf) :
    (items.map keyOf).Nodup ↔ (items.map nameOf).Nodup := by
  rw [List.Nodup, List.pairwise_map, List.pairwise_map]
  apply List.Pairwise.iff_of_mem
  intro first second isFirst isSecond
  exact not_congr (apart first isFirst second isSecond).symm

namespace Registry

variable {start registry later : Registry} {scope : Scope} {name : String}

/-- The registries that come of answering requests and putting names into use. -/
inductive Grows (start : Registry) : Registry → Prop
  | refl : Grows start start
  | resolve {registry later : Registry} {request : Request} {name : String}
      (grows : Grows start registry) (conventional : request.IsConventional)
      (resolved : registry.resolve request = .ok (name, later)) : Grows start later
  | reserve {registry : Registry} {scope : Scope} {used : String}
      (grows : Grows start registry) : Grows start (registry.reserve scope used)

namespace Grows

theorem trans (first : start.Grows registry) (second : registry.Grows later) :
    start.Grows later := by
  induction second with
  | refl => exact first
  | resolve _ conventional resolved ih => exact .resolve ih conventional resolved
  | reserve _ ih => exact .reserve ih

theorem isExtended (grows : start.Grows registry) : start.Extends registry := by
  induction grows with
  | refl => exact .refl start
  | resolve _ _ resolved ih => exact ih.trans (extends_of_resolve resolved)
  | reserve _ ih => exact ih.trans extends_reserve

theorem consistent (grows : start.Grows registry) (consistent : start.Consistent) :
    registry.Consistent := by
  induction grows with
  | refl => exact consistent
  | resolve _ _ resolved ih => exact ih.resolve resolved
  | reserve _ ih => exact ih.reserve

end Grows

/-- A name that is in use in a scope without any construct having it. -/
structure Withholds (registry : Registry) (scope : Scope) (name : String) : Prop where
  isTaken : registry.isTaken scope name = true
  unheld : ∀ slot, slot.scope = scope → registry.lookup slot ≠ some name

theorem withholds_empty {service : String} {convention : NamingConvention}
    (needed : name ∈ convention.runtimeTypes) :
    (empty service convention).Withholds { space := .types, owner := "" } name where
  isTaken := isTaken_empty.2 ⟨rfl, needed⟩
  unheld slot _ := by simp

/-- A name that is put into use is withheld from then on, unless a construct has it already. -/
theorem withholds_reserve
    (unheld : ∀ slot, slot.scope = scope → registry.lookup slot ≠ some name) :
    (registry.reserve scope name).Withholds scope name where
  isTaken := isTaken_reserve.2 (.inl ⟨rfl, rfl⟩)
  unheld slot inScope := by simpa using unheld slot inScope

theorem Withholds.reserve {other : Scope} {used : String}
    (withholds : registry.Withholds scope name) :
    (registry.reserve other used).Withholds scope name :=
  ⟨isTaken_reserve.2 (.inr withholds.isTaken), by simpa using withholds.unheld⟩

theorem Withholds.resolve {request : Request} {given : String}
    (withholds : registry.Withholds scope name)
    (resolved : registry.resolve request = .ok (given, later)) : later.Withholds scope name := by
  obtain ⟨-, rfl⟩ | ⟨-, chosen, rfl⟩ := resolve_eq_ok_iff.1 resolved
  · exact withholds
  · refine ⟨isTaken_assign.2 (.inr withholds.isTaken), fun slot together => ?_⟩
    rw [lookup_assign]
    split
    · next same =>
      -- What is chosen is free in the scope, and this name is not.
      have free := isTaken_of_choose chosen
      rw [← same, together] at free
      rintro ⟨⟩
      simp [withholds.isTaken] at free
    · exact withholds.unheld slot together

theorem Grows.withholds (grows : start.Grows registry) (withholds : start.Withholds scope name) :
    registry.Withholds scope name := by
  induction grows with
  | refl => exact withholds
  | resolve _ _ resolved ih => exact ih.resolve resolved
  | reserve _ ih => exact ih.reserve

/-- Names of constructs that are variants of what the convention makes of some text. -/
def IsConventional (registry : Registry) : Prop :=
  ∀ slot name, registry.lookup slot = some name → slot.kind ≠ .directory →
    ∃ source, name ∈ variants (registry.convention.identifier source slot.kind)

theorem isConventional_empty (service : String) (convention : NamingConvention) :
    (empty service convention).IsConventional := by
  intro slot name held
  simp at held

theorem mem_variants_of_choose {request : Request} (derived : request.explicit = none)
    (chosen : registry.choose request = .ok name) :
    name ∈ variants (registry.convention.identifier request.source request.slot.kind) := by
  simp only [choose, derived] at chosen
  split at chosen
  · next found =>
    cases chosen
    exact List.mem_of_find?_eq_some found
  · contradiction

theorem IsConventional.resolve {request : Request} (conventional : registry.IsConventional)
    (asked : request.IsConventional)
    (resolved : registry.resolve request = .ok (name, later)) : later.IsConventional := by
  obtain ⟨-, rfl⟩ | ⟨-, chosen, rfl⟩ := resolve_eq_ok_iff.1 resolved
  · exact conventional
  · intro slot given held ordinary
    rw [lookup_assign] at held
    split at held
    · next same =>
      cases held
      rw [same] at ordinary
      have derived := asked.resolve_right ordinary
      exact ⟨request.source, same ▸ mem_variants_of_choose derived chosen⟩
    · exact conventional slot given held ordinary

theorem Grows.isConventional (grows : start.Grows registry)
    (conventional : start.IsConventional) : registry.IsConventional := by
  induction grows with
  | refl => exact conventional
  | resolve _ asked resolved ih => exact ih.resolve asked resolved
  | reserve _ ih =>
      intro slot name held
      exact ih slot name (lookup_reserve ▸ held)

/-- The constructs of one kind that one owner has are named apart. -/
theorem Consistent.areNamedApart {α : Type} {items : List α} {keyOf nameOf : α → String}
    {kind : NameKind} {owner : String} (consistent : registry.Consistent)
    (held : ∀ item ∈ items,
      registry.lookup { kind, owner, key := keyOf item } = some (nameOf item)) :
    AreNamedApart items keyOf nameOf := by
  intro first isFirst second isSecond
  have heldFirst := held first isFirst
  have heldSecond := held second isSecond
  constructor
  · intro same
    rw [same] at heldFirst
    refine congrArg Slot.key (consistent.apart _ _ _ ?_ heldFirst heldSecond)
    rfl
  · intro same
    rw [same, heldSecond] at heldFirst
    exact (Option.some.inj heldFirst).symm

end Registry

end ODataClient.Name
