import Mathlib.Data.List.Forall2

/-!
# Outcomes of steps that may fail

When steps that may fail succeed one after the other, how they fail, and when they end like others.
Steps for the items of a list lead to one result for each, in the same order, so first come facts
about lists that are matched in that way.
-/

namespace List.Forall₂

variable {α β γ : Type} {related : α → β → Prop} {items : List α} {results : List β}

theorem exists_mem_zip_left (matched : Forall₂ related items results) {item : α}
    (member : item ∈ items) : ∃ result, (item, result) ∈ items.zip results := by
  induction matched with
  | nil => simp at member
  | @cons first result items results _ _ ih =>
      obtain rfl | member := List.mem_cons.1 member
      · exact ⟨result, List.mem_cons_self⟩
      · obtain ⟨other, paired⟩ := ih member
        exact ⟨other, List.mem_cons_of_mem (first, result) paired⟩

theorem exists_mem_zip_right (matched : Forall₂ related items results) {result : β}
    (member : result ∈ results) : ∃ item, (item, result) ∈ items.zip results := by
  induction matched with
  | nil => simp at member
  | @cons item first items results _ _ ih =>
      obtain rfl | member := List.mem_cons.1 member
      · exact ⟨item, List.mem_cons_self⟩
      · obtain ⟨other, paired⟩ := ih member
        exact ⟨other, List.mem_cons_of_mem (item, first) paired⟩

theorem exists_of_mem_right (matched : Forall₂ related items results) {result : β}
    (member : result ∈ results) : ∃ item ∈ items, related item result := by
  obtain ⟨item, paired⟩ := matched.exists_mem_zip_right member
  exact ⟨item, (List.of_mem_zip paired).1, List.forall₂_zip matched paired⟩

theorem map_eq_map {left : α → γ} {right : β → γ} (matched : Forall₂ related items results)
    (same : ∀ item result, related item result → left item = right result) :
    items.map left = results.map right := by
  induction matched with
  | nil => rfl
  | cons made _ ih => rw [List.map_cons, List.map_cons, same _ _ made, ih]

theorem comp {further : β → γ → Prop} {last : List γ} (matched : Forall₂ related items results)
    (next : Forall₂ further results last) :
    Forall₂ (fun item final => ∃ result, related item result ∧ further result final)
      items last := by
  induction matched generalizing last with
  | nil =>
      cases next
      exact .nil
  | cons made _ ih =>
      cases next with
      | cons final rest => exact .cons ⟨_, made, final⟩ (ih rest)

theorem zip_left (matched : Forall₂ related items results) :
    Forall₂ (fun item pair => pair.1 = item ∧ related item pair.2) items
      (items.zip results) := by
  induction matched with
  | nil => exact .nil
  | cons made _ ih => exact .cons ⟨rfl, made⟩ ih

theorem of_append_cons {result : β} {before after : List β}
    (matched : Forall₂ related items (before ++ result :: after)) :
    ∃ earlier item later, items = earlier ++ item :: later ∧ Forall₂ related earlier before ∧
      related item result := by
  have first := List.forall₂_take_append items before (result :: after) matched
  have rest := List.forall₂_drop_append items before (result :: after) matched
  obtain ⟨item, later, made, -, split⟩ := List.forall₂_cons_right_iff.1 rest
  refine ⟨items.take before.length, item, later, ?_, first, made⟩
  rw [← split, List.take_append_drop]

theorem filterMap_flatten {view : β → Option γ} {seen : α → List γ} {lists : List (List β)}
    (matched : Forall₂ (fun item list => list.filterMap view = seen item) items lists) :
    lists.flatten.filterMap view = items.flatMap seen := by
  induction matched with
  | nil => rfl
  | cons made _ ih => rw [flatten_cons, filterMap_append, made, ih, flatMap_cons]

end List.Forall₂

namespace ODataClient.Outcome

variable {ε α β : Type}

theorem bind_eq_ok_iff {outcome : Except ε α} {next : α → Except ε β} {result : β} :
    outcome >>= next = .ok result ↔ ∃ value, outcome = .ok value ∧ next value = .ok result := by
  cases outcome with
  | error error => simp [bind, Except.bind]
  | ok value => simp [bind, Except.bind]

/-- What follows a step matters only for what the step makes. -/
theorem bind_congr_of_ok {outcome : Except ε α} {next other : α → Except ε β}
    (same : ∀ value, outcome = .ok value → next value = other value) :
    outcome >>= next = outcome >>= other := by
  cases outcome with
  | error error => rfl
  | ok value => exact same value rfl

theorem map_eq_ok_iff {outcome : Except ε α} {make : α → β} {result : β} :
    outcome.map make = .ok result ↔ ∃ value, outcome = .ok value ∧ make value = result := by
  cases outcome with
  | error error => simp [Except.map]
  | ok value => simp [Except.map]

/-- Something can only be seen of the value of a success. -/
theorem exists_of_toOption {outcome : Except ε α} {view : α → β} {seen : β}
    (sees : outcome.toOption.map view = some seen) :
    ∃ value, outcome = .ok value ∧ view value = seen := by
  cases outcome with
  | error error => contradiction
  | ok value => exact ⟨value, rfl, Option.some.inj sees⟩

theorem toOption_eq_some_iff {outcome : Except ε α} {value : α} :
    outcome.toOption = some value ↔ outcome = .ok value := by
  cases outcome with
  | error error => simp [Except.toOption]
  | ok other => simp [Except.toOption]

/-- All steps succeed if each of them does. -/
theorem forM_eq_ok_iff {step : α → Except ε Unit} {items : List α} {result : Unit} :
    items.forM step = .ok result ↔ ∀ item ∈ items, step item = .ok () := by
  induction items with
  | nil => simp [pure, Except.pure]
  | cons item items ih =>
      have first : (item :: items).forM step = step item >>= fun _ => items.forM step := rfl
      rw [first, bind_eq_ok_iff, List.forall_mem_cons]
      constructor
      · rintro ⟨_, succeeded, rest⟩
        exact ⟨succeeded, ih.1 rest⟩
      · rintro ⟨succeeded, rest⟩
        exact ⟨(), succeeded, ih.2 rest⟩

/-- Each item leads to the result in its place. -/
theorem mapM_eq_ok_iff {step : α → Except ε β} {items : List α} {results : List β} :
    items.mapM step = .ok results ↔
      List.Forall₂ (fun item result => step item = .ok result) items results := by
  induction items generalizing results with
  | nil => simp [pure, Except.pure, eq_comm]
  | cons item items ih =>
      rw [List.mapM_cons, bind_eq_ok_iff, List.forall₂_cons_left_iff]
      constructor
      · rintro ⟨first, made, others⟩
        obtain ⟨rest, madeRest, same⟩ := bind_eq_ok_iff.1 others
        cases same
        exact ⟨first, rest, made, ih.1 madeRest, rfl⟩
      · rintro ⟨first, rest, made, madeRest, rfl⟩
        exact ⟨first, made, bind_eq_ok_iff.2 ⟨rest, ih.2 madeRest, rfl⟩⟩

/-- A step that does not fail. -/
def Succeeds (outcome : Except ε α) : Prop := ∃ value, outcome = .ok value

theorem succeeds_pure {value : α} : Succeeds (pure value : Except ε α) :=
  ⟨value, rfl⟩

/-- Two steps succeed if the first does, and the second does with whatever the first makes. -/
theorem succeeds_bind_iff {outcome : Except ε α} {next : α → Except ε β} {rest : Prop}
    (after : ∀ value, Succeeds (next value) ↔ rest) :
    Succeeds (outcome >>= next) ↔ Succeeds outcome ∧ rest := by
  constructor
  · rintro ⟨result, made⟩
    obtain ⟨value, first, last⟩ := bind_eq_ok_iff.1 made
    exact ⟨⟨value, first⟩, (after value).1 ⟨result, last⟩⟩
  · rintro ⟨⟨value, first⟩, holds⟩
    obtain ⟨result, last⟩ := (after value).2 holds
    exact ⟨result, bind_eq_ok_iff.2 ⟨value, first, last⟩⟩

/-- What follows a step without ever failing does not matter. -/
theorem succeeds_bind_pure_iff {outcome : Except ε α} {make : α → β} :
    Succeeds (outcome >>= fun value => pure (make value)) ↔ Succeeds outcome := by
  rw [succeeds_bind_iff fun value => iff_true_intro succeeds_pure, and_true]

theorem succeeds_map_iff {outcome : Except ε α} {make : α → β} :
    Succeeds (outcome.map make) ↔ Succeeds outcome := by
  simp [Succeeds, map_eq_ok_iff]

theorem succeeds_ite_pure_iff {condition : Bool} {value : α} {otherwise : Except ε α} :
    Succeeds (if condition then pure value else otherwise) ↔
      (condition = false → Succeeds otherwise) := by
  cases condition with
  | true => simp [succeeds_pure]
  | false => simp

theorem succeeds_mapM_iff {step : α → Except ε β} {items : List α} :
    Succeeds (items.mapM step) ↔ ∀ item ∈ items, Succeeds (step item) := by
  induction items with
  | nil => simp [succeeds_pure]
  | cons item items ih =>
      have rest (value : β) : Succeeds (items.mapM step >>= fun values =>
          (pure (value :: values) : Except ε (List β))) ↔
            ∀ item ∈ items, Succeeds (step item) := by
        rw [succeeds_bind_pure_iff, ih]
      rw [List.mapM_cons, succeeds_bind_iff rest, List.forall_mem_cons]

/-- Two outcomes that are the same failure, or successes with related values. Where they may come
apart, one of them may also fail without the other. -/
inductive Matched (apart : Prop) (related : α → β → Prop) : Except ε α → Except ε β → Prop
  | ok {value : α} {other : β} (alike : related value other) :
      Matched apart related (.ok value) (.ok other)
  | error (error : ε) : Matched apart related (.error error) (.error error)
  | left (allowed : apart) (error : ε) (outcome : Except ε β) :
      Matched apart related (.error error) outcome
  | right (allowed : apart) (outcome : Except ε α) (error : ε) :
      Matched apart related outcome (.error error)

namespace Matched

variable {γ δ : Type} {apart : Prop} {related : α → β → Prop} {further : γ → δ → Prop}
  {outcome : Except ε α} {other : Except ε β}

theorem bind {next : α → Except ε γ} {after : β → Except ε δ}
    (matched : Matched apart related outcome other)
    (rest : ∀ value another, related value another →
      Matched apart further (next value) (after another)) :
    Matched apart further (outcome >>= next) (other >>= after) := by
  cases matched with
  | ok alike => exact rest _ _ alike
  | error error => exact .error error
  | left allowed error => exact .left allowed error _
  | right allowed outcome error => exact .right allowed _ error

theorem map {left : α → γ} {right : β → δ} (matched : Matched apart related outcome other)
    (maps : ∀ value another, related value another → further (left value) (right another)) :
    Matched apart further (outcome.map left) (other.map right) := by
  cases matched with
  | ok alike => exact .ok (maps _ _ alike)
  | error error => exact .error error
  | left allowed error => exact .left allowed error _
  | right allowed outcome error => exact .right allowed _ error

theorem imp {weaker : α → β → Prop} (matched : Matched apart related outcome other)
    (implies : ∀ value another, related value another → weaker value another) :
    Matched apart weaker outcome other := by
  cases matched with
  | ok alike => exact .ok (implies _ _ alike)
  | error error => exact .error error
  | left allowed error => exact .left allowed error _
  | right allowed outcome error => exact .right allowed _ error

theorem related_of_ok {value : α} {another : β}
    (matched : Matched apart related (.ok value : Except ε α) (.ok another)) :
    related value another := by
  cases matched with
  | ok alike => exact alike

/-- Outcomes that may not come apart both fail or both succeed. -/
theorem both (together : ¬ apart) (matched : Matched apart related outcome other) :
    (∃ error, outcome = .error error ∧ other = .error error) ∨
      ∃ value another, outcome = .ok value ∧ other = .ok another ∧ related value another := by
  cases matched with
  | ok alike => exact .inr ⟨_, _, rfl, rfl, alike⟩
  | error error => exact .inl ⟨error, rfl, rfl⟩
  | left allowed | right allowed => exact (together allowed).elim

end Matched

/-- What one step keeps, all of them keep. -/
theorem foldlM_preserves {step : β → α → Except ε β} (holds : β → Prop)
    (each : ∀ value item next, holds value → step value item = .ok next → holds next)
    {items : List α} {start result : β} (initially : holds start)
    (folded : items.foldlM step start = .ok result) : holds result := by
  induction items generalizing start with
  | nil =>
      cases folded
      exact initially
  | cons item items ih =>
      rw [List.foldlM_cons, bind_eq_ok_iff] at folded
      obtain ⟨middle, stepped, rest⟩ := folded
      exact ih (each start item middle initially stepped) rest

/-- What corresponding steps of two runs keep between their values, the runs keep. -/
theorem foldlM_relates {γ : Type} {step : β → α → Except ε β} {other : γ → α → Except ε γ}
    (related : β → γ → Prop)
    (each : ∀ value another item next last, related value another →
      step value item = .ok next → other another item = .ok last → related next last)
    {items : List α} {start result : β} {begun ended : γ} (initially : related start begun)
    (folded : items.foldlM step start = .ok result)
    (foldedToo : items.foldlM other begun = .ok ended) : related result ended := by
  induction items generalizing start begun with
  | nil =>
      cases folded
      cases foldedToo
      exact initially
  | cons item items ih =>
      rw [List.foldlM_cons, bind_eq_ok_iff] at folded foldedToo
      obtain ⟨middle, stepped, rest⟩ := folded
      obtain ⟨between, steppedToo, restToo⟩ := foldedToo
      exact ih (each start begun item middle between initially stepped steppedToo) rest restToo

/-- A step whose failures are all of one kind. -/
def FailsOnly (allowed : ε → Prop) (outcome : Except ε α) : Prop :=
  ∀ error, outcome = .error error → allowed error

namespace FailsOnly

variable {allowed : ε → Prop} {outcome : Except ε α}

theorem ok {value : α} : FailsOnly allowed (.ok value : Except ε α) := by
  intro error failed
  contradiction

theorem error {error : ε} (isAllowed : allowed error) :
    FailsOnly allowed (.error error : Except ε α) := by
  intro other failed
  cases failed
  exact isAllowed

theorem bind {next : α → Except ε β} (first : FailsOnly allowed outcome)
    (rest : ∀ value, FailsOnly allowed (next value)) : FailsOnly allowed (outcome >>= next) := by
  cases outcome with
  | error failure => exact error (first failure rfl)
  | ok value => exact rest value

theorem map {make : α → β} (only : FailsOnly allowed outcome) :
    FailsOnly allowed (outcome.map make) := by
  cases outcome with
  | error failure => exact error (only failure rfl)
  | ok value => exact ok

theorem mapM {step : α → Except ε β} (each : ∀ item, FailsOnly allowed (step item))
    (items : List α) : FailsOnly allowed (items.mapM step) := by
  induction items with
  | nil => exact ok
  | cons item items ih =>
      rw [List.mapM_cons]
      exact (each item).bind fun first => ih.bind fun rest => ok

theorem forM {step : α → Except ε Unit} (each : ∀ item, FailsOnly allowed (step item))
    (items : List α) : FailsOnly allowed (items.forM step) := by
  induction items with
  | nil => exact ok
  | cons item items ih => exact (each item).bind fun _ => ih

theorem foldlM {step : β → α → Except ε β}
    (each : ∀ value item, FailsOnly allowed (step value item)) (items : List α) (start : β) :
    FailsOnly allowed (items.foldlM step start) := by
  induction items generalizing start with
  | nil => exact ok
  | cons item items ih =>
      rw [List.foldlM_cons]
      exact (each start item).bind ih

end FailsOnly

/-- Outcomes that have the same value, or are both failures, for whatever reasons. -/
def Agree (outcome other : Except ε α) : Prop :=
  ∀ value, outcome = .ok value ↔ other = .ok value

namespace Agree

variable {outcome other : Except ε α}

theorem refl (outcome : Except ε α) : Agree outcome outcome := fun _ => Iff.rfl

theorem failed (reason cause : ε) : Agree (.error reason : Except ε α) (.error cause) :=
  fun _ => ⟨nofun, nofun⟩

theorem eq_of_ok {value another : α} (agree : Agree outcome other) (made : outcome = .ok value)
    (madeToo : other = .ok another) : value = another :=
  Except.ok.inj (((agree value).1 made).symm.trans madeToo)

/-- Steps that follow outcomes that agree go on with the same value. -/
theorem exists_of_bind {γ : Type} {next : α → Except ε β} {after : α → Except ε γ} {result : β}
    {last : γ} (agree : Agree outcome other) (made : outcome >>= next = .ok result)
    (madeToo : other >>= after = .ok last) :
    ∃ value, next value = .ok result ∧ after value = .ok last := by
  obtain ⟨value, isValue, made⟩ := bind_eq_ok_iff.1 made
  obtain ⟨another, isAnother, madeToo⟩ := bind_eq_ok_iff.1 madeToo
  obtain rfl := agree.eq_of_ok isValue isAnother
  exact ⟨value, made, madeToo⟩

theorem bind {next after : α → Except ε β} (agree : Agree outcome other)
    (rest : ∀ value, Agree (next value) (after value)) :
    Agree (outcome >>= next) (other >>= after) := by
  intro result
  rw [bind_eq_ok_iff, bind_eq_ok_iff]
  exact exists_congr fun value => and_congr (agree value) (rest value result)

theorem map {make : α → β} (agree : Agree outcome other) :
    Agree (outcome.map make) (other.map make) := by
  intro result
  rw [map_eq_ok_iff, map_eq_ok_iff]
  exact exists_congr fun value => and_congr_left fun _ => agree value

theorem mapM {step another : α → Except ε β} (each : ∀ item, Agree (step item) (another item))
    (items : List α) : Agree (items.mapM step) (items.mapM another) := by
  intro results
  have same : (fun item result => step item = .ok result) =
      fun item result => another item = .ok result :=
    funext₂ fun item result => propext (each item result)
  rw [mapM_eq_ok_iff, mapM_eq_ok_iff, same]

end Agree

end ODataClient.Outcome
