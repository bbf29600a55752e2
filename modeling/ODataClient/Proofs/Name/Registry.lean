import ODataClient.Name.Run

/-!
# Operations on a registry of names

What each operation does to the names in use and to the names that constructs have been given. An
operation only ever adds to a registry, and a name that is given to a construct was free before.
-/

namespace ODataClient.Name.Registry

variable {registry earlier later : Registry} {scope other : Scope} {slot : Slot}
  {name used : String} {held : Bucket}

theorem isTaken_iff :
    registry.isTaken scope name = true ↔ name ∈ (registry.bucket scope).taken := by
  simp [isTaken]

theorem bucket_setBucket :
    (registry.setBucket scope held).bucket other =
      if other = scope then held else registry.bucket other := by
  simp only [bucket, setBucket]
  split <;> rfl

theorem bucket_opened : (registry.opened scope).bucket other = registry.bucket other := by
  rw [opened, bucket_setBucket]
  split
  · next same => rw [same]
  · rfl

@[simp]
theorem isTaken_opened :
    (registry.opened scope).isTaken other name = registry.isTaken other name := by
  rw [isTaken, isTaken, bucket_opened]

@[simp]
theorem lookup_opened : (registry.opened scope).lookup slot = registry.lookup slot := by
  rw [lookup, lookup, bucket_opened]

theorem setBucket_opened :
    (registry.opened scope).setBucket scope held = registry.setBucket scope held := by
  simp only [opened, setBucket, mk.injEq, true_and]
  ext other : 1
  split <;> rfl

/-- A scope in which something is kept is open already. -/
theorem opened_of_used (used : registry.bucket scope ≠ {}) :
    registry.opened scope = registry := by
  have found : some (registry.bucket scope) = registry.buckets scope := by
    cases present : registry.buckets scope with
    | none => exact (used (by simp [bucket, present])).elim
    | some held => simp [bucket, present]
  have same : (fun other => if other = scope then some (registry.bucket scope)
      else registry.buckets other) = registry.buckets := by
    funext other
    split
    · next same => rw [same, found]
    · rfl
  simp only [opened, setBucket, same]

theorem opened_of_isTaken (taken : registry.isTaken scope name = true) :
    registry.opened scope = registry := by
  apply opened_of_used
  intro unused
  simp [isTaken, unused] at taken

theorem opened_of_lookup (given : registry.lookup slot = some name) :
    registry.opened slot.scope = registry := by
  apply opened_of_used
  intro unused
  simp [lookup, unused] at given

@[simp]
theorem isTaken_reserve :
    (registry.reserve scope used).isTaken other name = true ↔
      (other = scope ∧ name = used) ∨ registry.isTaken other name = true := by
  simp only [isTaken_iff, reserve, bucket_setBucket]
  by_cases same : other = scope <;> simp [same]

@[simp]
theorem isTaken_assign :
    (registry.assign slot used).isTaken other name = true ↔
      (other = slot.scope ∧ name = used) ∨ registry.isTaken other name = true := by
  simp only [isTaken_iff, assign, bucket_setBucket]
  by_cases same : other = slot.scope <;> simp [same]

@[simp]
theorem isTaken_empty {service : String} {convention : NamingConvention} :
    (empty service convention).isTaken scope name = true ↔
      scope = { space := .types, owner := "" } ∧ name ∈ convention.runtimeTypes := by
  by_cases same : scope = { space := .types, owner := "" } <;>
    simp [isTaken, bucket, empty, same]

@[simp]
theorem lookup_empty {service : String} {convention : NamingConvention} :
    (empty service convention).lookup slot = none := by
  by_cases same : slot.scope = { space := .types, owner := "" } <;>
    simp [lookup, bucket, empty, same]

@[simp]
theorem lookup_reserve :
    (registry.reserve scope used).lookup slot = registry.lookup slot := by
  simp only [lookup, reserve, bucket_setBucket]
  split
  · next same => rw [same]
  · rfl

@[simp]
theorem lookup_assign {given : Slot} :
    (registry.assign given used).lookup slot =
      if slot = given then some used else registry.lookup slot := by
  simp only [lookup, assign, bucket_setBucket]
  by_cases same : slot = given
  · simp [same]
  · by_cases together : slot.scope = given.scope <;>
      simp [List.lookup_cons, same, beq_false_of_ne same, together]

theorem choose_opened {request : Request} :
    (registry.opened scope).choose request = registry.choose request := by
  simp only [choose, isTaken_opened]
  rfl

/-- A request is only refused where a name is in use. -/
theorem exists_isTaken_of_choose {request : Request} {error : NameError}
    (refused : registry.choose request = .error error) :
    ∃ name, registry.isTaken request.slot.scope name = true := by
  unfold choose at refused
  cases explicit : request.explicit with
  | some wanted =>
      simp only [explicit] at refused
      split at refused
      · next taken => exact ⟨wanted, taken⟩
      · contradiction
  | none =>
      simp only [explicit] at refused
      split at refused
      · contradiction
      · next nothing =>
        have first := List.find?_eq_none.1 nothing _ List.mem_cons_self
        exact ⟨_, by simpa using first⟩

/-- Requests are answered as if scopes were not opened for them. -/
theorem resolve_eq {request : Request} :
    registry.resolve request =
      match registry.lookup request.slot with
      | some name => .ok (name, registry)
      | none =>
        (registry.choose request).map fun name => (name, registry.assign request.slot name) := by
  simp only [resolve, lookup_opened, choose_opened]
  cases given : registry.lookup request.slot with
  | some name => simp only [opened_of_lookup given]
  | none => simp only [assign, bucket_opened, setBucket_opened]

/-- A request that is refused opens nothing: its scope has a bucket, as a name is in use there. -/
theorem opened_of_resolve {request : Request} {error : NameError}
    (refused : registry.resolve request = .error error) :
    registry.opened request.slot.scope = registry := by
  rw [resolve_eq] at refused
  split at refused
  · contradiction
  · cases chosen : registry.choose request with
    | ok name => simp [chosen, Except.map] at refused
    | error reason =>
        rcases exists_isTaken_of_choose chosen with ⟨name, taken⟩
        exact opened_of_isTaken taken

/-- A name that is chosen for a construct is free in its scope. -/
theorem isTaken_of_choose {request : Request} (chosen : registry.choose request = .ok name) :
    registry.isTaken request.slot.scope name = false := by
  unfold choose at chosen
  cases explicit : request.explicit with
  | some wanted =>
      simp only [explicit] at chosen
      split at chosen
      · contradiction
      · cases chosen
        simp_all
  | none =>
      simp only [explicit] at chosen
      split at chosen
      · next free found =>
        cases chosen
        simpa using List.find?_some found
      · contradiction

/-- A request is answered with the name that the construct has, or else with a new one. -/
theorem resolve_eq_ok_iff {request : Request} :
    registry.resolve request = .ok (name, later) ↔
      (registry.lookup request.slot = some name ∧ later = registry) ∨
      (registry.lookup request.slot = none ∧ registry.choose request = .ok name ∧
        later = registry.assign request.slot name) := by
  rw [resolve_eq]
  cases held : registry.lookup request.slot with
  | some given => simp [eq_comm]
  | none =>
      cases chosen : registry.choose request with
      | error error => simp [Except.map]
      | ok given =>
          simp only [Except.map, Except.ok.injEq, Prod.mk.injEq, reduceCtorEq, false_and,
            true_and, false_or]
          constructor
          · rintro ⟨rfl, rfl⟩
            exact ⟨rfl, rfl⟩
          · rintro ⟨rfl, rfl⟩
            exact ⟨rfl, rfl⟩

/-- After a request has been answered, the construct has the name of the answer. -/
theorem lookup_of_resolve {request : Request}
    (resolved : registry.resolve request = .ok (name, later)) :
    later.lookup request.slot = some name := by
  obtain ⟨held, rfl⟩ | ⟨-, -, rfl⟩ := resolve_eq_ok_iff.1 resolved
  · exact held
  · simp

/-- A construct that has a name keeps it, and the registry stays as it is. -/
theorem resolve_of_lookup {request : Request} (held : registry.lookup request.slot = some name) :
    registry.resolve request = .ok (name, registry) :=
  resolve_eq_ok_iff.2 (.inl ⟨held, rfl⟩)

/-- What a construct has been given, it may as well have asked for. -/
theorem resolve_explicitly {request : Request}
    (resolved : registry.resolve request = .ok (name, later)) :
    registry.resolve { request with explicit := some name } = .ok (name, later) := by
  rw [resolve_eq_ok_iff] at resolved ⊢
  obtain held | ⟨unnamed, chosen, made⟩ := resolved
  · exact .inl held
  · refine .inr ⟨unnamed, ?_, made⟩
    simp [choose, isTaken_of_choose chosen]

/-- One registry has grown out of another: names in use stay in use, and constructs keep their
names. -/
structure Extends (earlier later : Registry) : Prop where
  service : later.service = earlier.service
  convention : later.convention = earlier.convention
  isTaken : ∀ scope name, earlier.isTaken scope name = true → later.isTaken scope name = true
  lookup : ∀ slot name, earlier.lookup slot = some name → later.lookup slot = some name

namespace Extends

@[refl]
theorem refl (registry : Registry) : registry.Extends registry :=
  ⟨rfl, rfl, fun _ _ taken => taken, fun _ _ held => held⟩

theorem trans {last : Registry} (first : earlier.Extends later) (second : later.Extends last) :
    earlier.Extends last where
  service := second.service.trans first.service
  convention := second.convention.trans first.convention
  isTaken scope name taken := second.isTaken scope name (first.isTaken scope name taken)
  lookup slot name held := second.lookup slot name (first.lookup slot name held)

end Extends

theorem extends_reserve : registry.Extends (registry.reserve scope used) where
  service := rfl
  convention := rfl
  isTaken _ _ taken := isTaken_reserve.2 (.inr taken)
  lookup slot name held := by simpa using held

/-- Giving a name to a construct that has none takes nothing away. -/
theorem extends_assign (unnamed : registry.lookup slot = none) :
    registry.Extends (registry.assign slot used) where
  service := rfl
  convention := rfl
  isTaken _ _ taken := isTaken_assign.2 (.inr taken)
  lookup given name held := by
    have differ : given ≠ slot := by
      rintro rfl
      simp [unnamed] at held
    simpa [differ] using held

theorem extends_of_resolve {request : Request}
    (resolved : registry.resolve request = .ok (name, later)) :
    registry.Extends later := by
  obtain ⟨-, rfl⟩ | ⟨unnamed, -, rfl⟩ := resolve_eq_ok_iff.1 resolved
  · exact .refl later
  · exact extends_assign unnamed

/-- Names given to constructs are in use, and in one scope no two constructs have the same name. -/
structure Consistent (registry : Registry) : Prop where
  isTaken : ∀ slot name, registry.lookup slot = some name →
    registry.isTaken slot.scope name = true
  apart : ∀ first second name, first.scope = second.scope →
    registry.lookup first = some name → registry.lookup second = some name → first = second

theorem consistent_empty (service : String) (convention : NamingConvention) :
    (empty service convention).Consistent where
  isTaken _ _ held := by simp at held
  apart _ _ _ _ held := by simp at held

theorem Consistent.reserve (consistent : registry.Consistent) :
    (registry.reserve scope used).Consistent where
  isTaken slot name held := by
    rw [lookup_reserve] at held
    exact isTaken_reserve.2 (.inr (consistent.isTaken slot name held))
  apart first second name together := by
    simpa using consistent.apart first second name together

/-- Names stay apart when a construct gets a name that is free: no other construct of its scope
can have that name, or it would be in use. -/
theorem Consistent.assign (consistent : registry.Consistent)
    (free : registry.isTaken slot.scope used = false) :
    (registry.assign slot used).Consistent where
  isTaken given name held := by
    rw [lookup_assign] at held
    split at held
    · next same => simp_all
    · exact isTaken_assign.2 (.inr (consistent.isTaken given name held))
  apart first second name together firstHeld secondHeld := by
    rw [lookup_assign] at firstHeld secondHeld
    have unused (given : Slot) (same : given.scope = slot.scope) :
        registry.lookup given ≠ some used := by
      intro held
      simpa [same, free] using consistent.isTaken given used held
    split at firstHeld <;> split at secondHeld
    · next firstSame secondSame => exact firstSame.trans secondSame.symm
    · next firstSame _ =>
      cases firstHeld
      exact (unused second (by rw [← together, firstSame]) secondHeld).elim
    · next _ secondSame =>
      cases secondHeld
      exact (unused first (by rw [together, secondSame]) firstHeld).elim
    · exact consistent.apart first second name together firstHeld secondHeld

theorem Consistent.resolve {request : Request} (consistent : registry.Consistent)
    (resolved : registry.resolve request = .ok (name, later)) : later.Consistent := by
  obtain ⟨-, rfl⟩ | ⟨-, chosen, rfl⟩ := resolve_eq_ok_iff.1 resolved
  · exact consistent
  · exact consistent.assign (isTaken_of_choose chosen)

end ODataClient.Name.Registry
