import ODataClient.Model.Build
import ODataClient.Proofs.Name.Growth
import ODataClient.Proofs.Outcome

/-!
# Runs of building steps

What it means that a step of model building succeeds, for each step that others are made of: which
value it gives, how the registry grows and which findings are added.
-/

namespace ODataClient

/-- A later state of a build, whose registry has grown out of the earlier one and in which exactly
the given findings have been added. -/
structure BuildState.Advances (earlier later : BuildState) (added : List Diagnostic) : Prop where
  grows : earlier.registry.Grows later.registry
  findings : later.findings = earlier.findings ++ added

namespace BuildState.Advances

variable {first second third : BuildState} {added more : List Diagnostic}

theorem refl (state : BuildState) : state.Advances state [] :=
  ⟨.refl, (List.append_nil _).symm⟩

/-- The names handed out before are still held. -/
theorem registry (advances : first.Advances second added) :
    first.registry.Extends second.registry :=
  advances.grows.isExtended

theorem trans (early : first.Advances second added) (late : second.Advances third more) :
    first.Advances third (added ++ more) where
  grows := early.grows.trans late.grows
  findings := by rw [late.findings, early.findings, List.append_assoc]

/-- A step that adds no finding may come first. -/
theorem after_quiet (late : second.Advances third more) (early : first.Advances second []) :
    first.Advances third more :=
  early.trans late

end BuildState.Advances

namespace Build

variable {α β ε : Type} {start stop : BuildState}

/-- Two steps succeed one after the other. -/
theorem run_bind_eq_ok {step : Build α} {next : α → Build β} {result : β} :
    (step >>= next).run start = .ok (result, stop) ↔
      ∃ value middle, step.run start = .ok (value, middle) ∧
        (next value).run middle = .ok (result, stop) := by
  rw [StateT.run_bind, Outcome.bind_eq_ok_iff, Prod.exists]

/-- What follows a step that succeeds goes on where it has led. -/
theorem run_bind_of_ok {step : Build α} {next : α → Build β} {value : α}
    (ran : step.run start = .ok (value, stop)) :
    (step >>= next).run start = (next value).run stop := by
  rw [StateT.run_bind, ran]
  rfl

theorem run_pure_eq_ok {value result : α} :
    (pure value : Build α).run start = .ok (result, stop) ↔ value = result ∧ start = stop := by
  rw [StateT.run_pure]
  simp [pure, Except.pure]

theorem run_mapM_nil_eq_ok {step : α → Build β} {results : List β} :
    (([] : List α).mapM step).run start = .ok (results, stop) ↔ results = [] ∧ start = stop := by
  rw [List.mapM_nil, run_pure_eq_ok, eq_comm]

/-- Steps for the items of a list succeed if the first does and the others do after it. -/
theorem run_mapM_cons_eq_ok {step : α → Build β} {item : α} {items : List α} {results : List β} :
    ((item :: items).mapM step).run start = .ok (results, stop) ↔
      ∃ result middle rest, (step item).run start = .ok (result, middle) ∧
        (items.mapM step).run middle = .ok (rest, stop) ∧ results = result :: rest := by
  rw [List.mapM_cons, run_bind_eq_ok]
  constructor
  · rintro ⟨result, middle, ranItem, ran⟩
    obtain ⟨rest, last, ranItems, ran⟩ := run_bind_eq_ok.1 ran
    obtain ⟨rfl, rfl⟩ := run_pure_eq_ok.1 ran
    exact ⟨result, middle, rest, ranItem, ranItems, rfl⟩
  · rintro ⟨result, middle, rest, ranItem, ranItems, rfl⟩
    exact ⟨result, middle, ranItem, run_bind_eq_ok.2 ⟨rest, stop, ranItems, rfl⟩⟩

theorem run_fail_ne_ok {error : ModelError} {result : α} :
    (fail error : Build α).run start ≠ .ok (result, stop) := by
  intro ran
  cases ran

theorem run_lift_eq_ok {reason : ε → BuildError} {outcome : Except ε α} {result : α} :
    (lift reason outcome).run start = .ok (result, stop) ↔
      outcome = .ok result ∧ start = stop := by
  cases outcome with
  | error error =>
      constructor
      · intro ran
        cases ran
      · rintro ⟨⟨⟩, -⟩
  | ok value =>
      rw [lift, run_pure_eq_ok, Except.ok.injEq]

theorem run_typeReference_eq_ok {text : String} {reference : TypeReference} :
    (typeReference text).run start = .ok (reference, stop) ↔
      TypeReference.parse text = .ok reference ∧ start = stop :=
  run_lift_eq_ok

theorem run_primitive_eq_ok {language : TargetLanguage} {name : String}
    {mapping : PrimitiveMapping} :
    (primitive language name).run start = .ok (mapping, stop) ↔
      language.primitive name = .ok mapping ∧ start = stop :=
  run_lift_eq_ok

theorem run_nameOf?_eq_ok {slot : Name.Slot} {held : Option String} :
    (nameOf? slot).run start = .ok (held, stop) ↔
      start.registry.lookup slot = held ∧ start = stop :=
  run_pure_eq_ok

theorem run_name_eq_ok {request : Name.Request} {given : String} :
    (name request).run start = .ok (given, stop) ↔
      ∃ registry, start.registry.resolve request = .ok (given, registry) ∧
        { start with registry } = stop := by
  simp only [name, StateT.run]
  cases resolved : start.registry.resolve request with
  | error error => simp
  | ok pair =>
      simp only [Except.ok.injEq, Prod.mk.injEq]
      constructor
      · rintro ⟨rfl, rfl⟩
        exact ⟨pair.2, rfl, rfl⟩
      · rintro ⟨registry, rfl, rfl⟩
        exact ⟨rfl, rfl⟩

/-- A construct that has been named holds its name. -/
theorem advances_name {request : Name.Request} {given : String}
    (conventional : request.IsConventional)
    (ran : (name request).run start = .ok (given, stop)) :
    start.Advances stop [] ∧ stop.registry.lookup request.slot = some given := by
  obtain ⟨registry, resolved, rfl⟩ := run_name_eq_ok.1 ran
  refine ⟨⟨.resolve .refl conventional resolved, ?_⟩, ?_⟩
  · exact (List.append_nil _).symm
  · exact Name.Registry.lookup_of_resolve resolved

theorem advances_reserve {scope : Name.Scope} {used : String} {result : Unit}
    (ran : (reserve scope used).run start = .ok (result, stop)) : start.Advances stop [] := by
  cases ran
  exact ⟨.reserve .refl, (List.append_nil _).symm⟩

theorem advances_report {finding : Diagnostic} {result : Unit}
    (ran : (report finding).run start = .ok (result, stop)) :
    start.Advances stop [finding] := by
  cases ran
  exact ⟨.refl, rfl⟩

/-- The names that a member of the class `owner` holds. -/
structure IsMember (registry : Name.Registry) (owner key : String) (names : MemberNames) :
    Prop where
  instanceName :
    registry.lookup { kind := .instanceMember, owner, key } = some names.instanceName
  staticName :
    registry.lookup { kind := .staticMember, owner, key } = some names.staticName
  parameterName :
    registry.lookup { kind := .parameter, owner, key } = some names.parameterName

theorem IsMember.mono {earlier later : Name.Registry} {owner key : String} {names : MemberNames}
    (grows : earlier.Extends later) (member : IsMember earlier owner key names) :
    IsMember later owner key names where
  instanceName := grows.lookup _ _ member.instanceName
  staticName := grows.lookup _ _ member.staticName
  parameterName := grows.lookup _ _ member.parameterName

theorem advances_memberNames {owner key : String} {names : MemberNames}
    (ran : (memberNames owner key).run start = .ok (names, stop)) :
    start.Advances stop [] ∧ IsMember stop.registry owner key names := by
  obtain ⟨instanceName, first, namedInstance, ran⟩ := run_bind_eq_ok.1 ran
  obtain ⟨staticName, second, namedStatic, ran⟩ := run_bind_eq_ok.1 ran
  obtain ⟨parameterName, third, namedParameter, ran⟩ := run_bind_eq_ok.1 ran
  obtain ⟨rfl, rfl⟩ := run_pure_eq_ok.1 ran
  obtain ⟨toFirst, heldInstance⟩ := advances_name (.inl rfl) namedInstance
  obtain ⟨toSecond, heldStatic⟩ := advances_name (.inl rfl) namedStatic
  obtain ⟨toThird, heldParameter⟩ := advances_name (.inl rfl) namedParameter
  refine ⟨(toThird.after_quiet toSecond).after_quiet toFirst, ?_, ?_, heldParameter⟩
  · exact toThird.registry.lookup _ _ (toSecond.registry.lookup _ _ heldInstance)
  · exact toThird.registry.lookup _ _ heldStatic

/-- Steps for the items of a list, one after the other: where each makes a result of its item that
stays as it is while the registry grows, so do all of them, and their findings are put together. -/
theorem advances_mapM (added : α → List Diagnostic) (Made : Name.Registry → α → β → Prop)
    {step : α → Build β} {items : List α} {results : List β}
    (mono : ∀ ⦃earlier later item result⦄, earlier.Extends later →
      Made earlier item result → Made later item result)
    (each : ∀ item ∈ items, ∀ ⦃before after result⦄, start.registry.Extends before.registry →
      (step item).run before = .ok (result, after) →
        before.Advances after (added item) ∧ Made after.registry item result)
    (ran : (items.mapM step).run start = .ok (results, stop)) :
    start.Advances stop (items.flatMap added) ∧
      List.Forall₂ (Made stop.registry) items results := by
  induction items generalizing start results with
  | nil =>
      obtain ⟨rfl, rfl⟩ := run_mapM_nil_eq_ok.1 ran
      exact ⟨.refl _, .nil⟩
  | cons item items ih =>
      obtain ⟨result, middle, others, ranItem, ranItems, rfl⟩ := run_mapM_cons_eq_ok.1 ran
      obtain ⟨toMiddle, made⟩ := each item List.mem_cons_self (.refl _) ranItem
      have eachLater : ∀ other ∈ items, ∀ ⦃before after made⦄,
          middle.registry.Extends before.registry →
          (step other).run before = .ok (made, after) →
            before.Advances after (added other) ∧ Made after.registry other made :=
        fun other member _ _ _ grows => each other (List.mem_cons_of_mem item member)
          (toMiddle.registry.trans grows)
      obtain ⟨toLast, rest⟩ := ih eachLater ranItems
      exact ⟨toMiddle.trans toLast, .cons (mono toLast.registry made) rest⟩

theorem advances_mapM_quiet (Made : Name.Registry → α → β → Prop) {step : α → Build β}
    {items : List α} {results : List β}
    (mono : ∀ ⦃earlier later item result⦄, earlier.Extends later →
      Made earlier item result → Made later item result)
    (each : ∀ item ∈ items, ∀ ⦃before after result⦄, start.registry.Extends before.registry →
      (step item).run before = .ok (result, after) →
        before.Advances after [] ∧ Made after.registry item result)
    (ran : (items.mapM step).run start = .ok (results, stop)) :
    start.Advances stop [] ∧ List.Forall₂ (Made stop.registry) items results := by
  have nothing : items.flatMap (fun _ => ([] : List Diagnostic)) = [] :=
    List.flatMap_eq_nil_iff.2 fun _ _ => rfl
  have steps := advances_mapM (fun _ => []) Made mono each ran
  rwa [nothing] at steps

end Build

end ODataClient
