import Mathlib.Data.Finset.Card
import Mathlib.Data.Finset.Range
import Mathlib.Order.Nat
import ODataClient.Proofs.Name.Interleaving

/-!
# Numbers behind names

A construct that asks for a name gets the candidate or the variant of it with the least number that
is free. So constructs of one scope that ask for one candidate are numbered in the order in which
they first ask, until the numbers are used up.
-/

namespace ODataClient.Name

variable {candidate : String}

/-- A candidate with a number behind it, except for the number zero. -/
def variant (candidate : String) : Nat → String
  | 0 => candidate
  | ordinal + 1 => s!"{candidate}_{ordinal + 1}"

/-- The digits of a number tell it, as it can be read back from them. -/
theorem digits_injective : Function.Injective fun number : Nat => (toString number).toList := by
  have readsBack : Function.LeftInverse (fun digits => Nat.ofDigitChars 10 digits 0)
      fun number : Nat => (toString number).toList := fun number => by simp
  exact readsBack.injective

theorem toList_variant_succ {ordinal : Nat} :
    (variant candidate (ordinal + 1)).toList =
      candidate.toList ++ '_' :: (toString (ordinal + 1)).toList := by
  have spelled : variant candidate (ordinal + 1) =
      candidate ++ "_" ++ toString (ordinal + 1) := rfl
  rw [spelled, String.append_assoc, String.toList_append, String.toList_append]
  rfl

theorem variant_succ_ne {ordinal : Nat} : variant candidate (ordinal + 1) ≠ candidate := by
  intro same
  have lengths := congrArg List.length (congrArg String.toList same)
  simp [toList_variant_succ] at lengths

theorem variant_injective : Function.Injective (variant candidate) := by
  intro first second same
  match first, second with
  | 0, 0 => rfl
  | 0, second + 1 => exact (variant_succ_ne same.symm).elim
  | first + 1, 0 => exact (variant_succ_ne same).elim
  | first + 1, second + 1 =>
      have texts := congrArg String.toList same
      rw [toList_variant_succ, toList_variant_succ, List.append_right_inj,
        List.cons_inj_right] at texts
      exact digits_injective texts

theorem variants_eq_map :
    variants candidate = (List.range' 0 (ordinalLimit + 1)).map (variant candidate) := by
  rw [List.range'_succ, List.map_cons]
  refine congrArg (List.cons candidate) (List.map_congr_left fun ordinal isOrdinal => ?_)
  obtain ⟨previous, rfl⟩ : ∃ previous, ordinal = previous + 1 := by
    have := List.left_le_of_mem_range' isOrdinal
    exact ⟨ordinal - 1, by omega⟩
  rfl

/-- The name that a request without an explicit name is given if it is free. -/
def Request.wanted (request : Request) (convention : NamingConvention) : String :=
  convention.identifier request.source request.slot.kind

namespace Registry

variable {registry : Registry} {request : Request} {scope : Scope} {slot : Slot} {ordinal : Nat}

/-- The least number with which a candidate is free in a scope. -/
structure IsFirstFree (registry : Registry) (scope : Scope) (candidate : String)
    (ordinal : Nat) : Prop where
  le_limit : ordinal ≤ ordinalLimit
  free : registry.isTaken scope (variant candidate ordinal) = false
  taken : ∀ smaller < ordinal, registry.isTaken scope (variant candidate smaller) = true

/-- A candidate is used up in a scope if it is taken there with every number. -/
def IsUsedUp (registry : Registry) (scope : Scope) (candidate : String) : Prop :=
  ∀ ordinal ≤ ordinalLimit, registry.isTaken scope (variant candidate ordinal) = true

theorem isUsedUp_or_exists_isFirstFree (registry : Registry) (scope : Scope) (candidate : String) :
    registry.IsUsedUp scope candidate ∨
      ∃ ordinal, registry.IsFirstFree scope candidate ordinal := by
  by_cases some : ∃ ordinal, ordinal ≤ ordinalLimit ∧
      registry.isTaken scope (variant candidate ordinal) = false
  · obtain ⟨within, free⟩ := Nat.find_spec some
    refine .inr ⟨Nat.find some, within, free, fun smaller less => ?_⟩
    have occupied := Nat.find_min some less
    simpa [less.le.trans within] using occupied
  · left
    intro ordinal within
    by_contra free
    exact some ⟨ordinal, within, by simpa using free⟩

/-- The error for a request of which the candidate is used up. -/
def exhausted (registry : Registry) (request : Request) : NameError :=
  .exhausted registry.service request.slot.kind request.slot.key
    (request.wanted registry.convention) ordinalLimit

theorem choose_of_isFirstFree (derived : request.explicit = none)
    (first : registry.IsFirstFree request.slot.scope (request.wanted registry.convention) ordinal) :
    registry.choose request = .ok (variant (request.wanted registry.convention) ordinal) := by
  have found : (variants (request.wanted registry.convention)).find?
      (fun name => !registry.isTaken request.slot.scope name) =
        some (variant (request.wanted registry.convention) ordinal) := by
    rw [variants_eq_map, List.find?_map, Option.map_eq_some_iff]
    refine ⟨ordinal, List.find?_range'_eq_some.2 ⟨?_, ?_, ?_⟩, rfl⟩
    · simp [first.free]
    · have := first.le_limit
      simp only [List.mem_range'_1]
      omega
    · intro smaller _ less
      simp [first.taken smaller less]
  rw [Request.wanted] at found ⊢
  simp only [choose, derived, found]

theorem choose_of_isUsedUp (derived : request.explicit = none)
    (usedUp : registry.IsUsedUp request.slot.scope (request.wanted registry.convention)) :
    registry.choose request = .error (registry.exhausted request) := by
  have nothing : (variants (request.wanted registry.convention)).find?
      (fun name => !registry.isTaken request.slot.scope name) = none := by
    rw [variants_eq_map, List.find?_map, Option.map_eq_none_iff, List.find?_eq_none]
    intro ordinal isOrdinal
    simp only [List.mem_range'_1] at isOrdinal
    simp [usedUp ordinal (by omega)]
  rw [Request.wanted] at nothing
  simp only [choose, derived, nothing]
  rfl

theorem step_of_choose {name : String} (unnamed : registry.lookup request.slot = none)
    (chosen : registry.choose request = .ok name) :
    registry.step (.resolve request) = (.named name, registry.assign request.slot name) := by
  simp only [step_resolve, resolve_eq, unnamed, chosen, Except.map]

theorem step_of_refused {error : NameError} (unnamed : registry.lookup request.slot = none)
    (refused : registry.choose request = .error error) :
    registry.step (.resolve request) = (.refused error, registry) := by
  simp only [step_resolve, resolve_eq, unnamed, refused, Except.map]

theorem step_of_lookup {name : String} (held : registry.lookup request.slot = some name) :
    registry.step (.resolve request) = (.named name, registry) := by
  simp only [step_resolve, resolve_of_lookup held]

/-- The names that are in use in a scope. -/
def namesInUse (registry : Registry) (scope : Scope) : Finset String :=
  (registry.bucket scope).taken.toFinset

theorem mem_namesInUse {name : String} :
    name ∈ registry.namesInUse scope ↔ registry.isTaken scope name = true := by
  simp [namesInUse, isTaken_iff]

/-- A candidate is only used up where there are as many names in use as it has variants. -/
theorem IsUsedUp.lt_card (usedUp : registry.IsUsedUp scope candidate) :
    ordinalLimit < (registry.namesInUse scope).card := by
  have allTaken : (Finset.range (ordinalLimit + 1)).image (variant candidate) ⊆
      registry.namesInUse scope := by
    intro name isVariant
    obtain ⟨ordinal, within, rfl⟩ := Finset.mem_image.1 isVariant
    exact mem_namesInUse.2 (usedUp ordinal (Nat.le_of_lt_succ (Finset.mem_range.1 within)))
  calc ordinalLimit
    _ < (Finset.range (ordinalLimit + 1)).card := by simp
    _ = ((Finset.range (ordinalLimit + 1)).image (variant candidate)).card :=
        (Finset.card_image_of_injective _ variant_injective).symm
    _ ≤ (registry.namesInUse scope).card := Finset.card_le_card allTaken

end Registry

/-- The construct that an operation asks a name for in a scope. -/
def Operation.asked? (scope : Scope) : Operation → Option Slot
  | .resolve request => if request.slot.scope = scope then some request.slot else none
  | .reserve .. | .isTaken .. | .lookup .. => none

/-- The constructs that names are asked for in a scope, in the order in which they first are. -/
def askedIn (scope : Scope) (operations : List Operation) : List Slot :=
  (operations.filterMap (Operation.asked? scope)).eraseDups

/-- An operation by which no name gets into use in a scope but the candidate and its variants. -/
def Operation.WantsOnly (convention : NamingConvention) (scope : Scope) (candidate : String) :
    Operation → Prop
  | .resolve request => request.slot.scope = scope →
      request.explicit = none ∧ request.wanted convention = candidate
  | .reserve reserved _ => reserved ≠ scope
  | .isTaken .. | .lookup .. => True

/-- The name of a construct by its place among those that have asked for a candidate, if the numbers
go that far. -/
def numberFor (candidate : String) (asked : List Slot) (slot : Slot) : Option String :=
  if slot ∈ asked ∧ asked.idxOf slot ≤ ordinalLimit then
    some (variant candidate (asked.idxOf slot))
  else none

theorem numberFor_concat_of_ne {asked : List Slot} {slot other : Slot} (differ : slot ≠ other) :
    numberFor candidate (asked ++ [other]) slot = numberFor candidate asked slot := by
  by_cases member : slot ∈ asked
  · simp [numberFor, member, List.idxOf_append_of_mem member]
  · simp [numberFor, member, differ]

theorem numberFor_concat_self {asked : List Slot} {slot : Slot} (first : slot ∉ asked) :
    numberFor candidate (asked ++ [slot]) slot =
      if asked.length ≤ ordinalLimit then some (variant candidate asked.length) else none := by
  have place : (asked ++ [slot]).idxOf slot = asked.length := by
    simp [List.idxOf_append_of_notMem first]
  simp [numberFor, place]

namespace Registry

variable {registry : Registry} {request : Request} {scope : Scope} {slot : Slot}
  {asked prior : List Slot} {operation : Operation} {operations : List Operation}

/-- A scope in which a candidate is free with every number and no construct has a name. -/
structure IsUntouched (registry : Registry) (scope : Scope) (candidate : String) : Prop where
  free : ∀ ordinal ≤ ordinalLimit, registry.isTaken scope (variant candidate ordinal) = false
  unnamed : ∀ slot, slot.scope = scope → registry.lookup slot = none

/-- A scope is untouched as long as nothing is addressed to it, but for the type names of the
runtime. -/
theorem isUntouched_run {service : String} {convention : NamingConvention}
    (elsewhere : addressedTo scope operations = [])
    (free : ∀ ordinal ≤ ordinalLimit,
      (empty service convention).isTaken scope (variant candidate ordinal) = false) :
    ((empty service convention).run operations).2.IsUntouched scope candidate := by
  let new := empty service convention
  obtain ⟨-, agree⟩ :=
    AgreesOn.run operations (.refl new : new.AgreesOn (· = scope) new) rfl
  rw [elsewhere] at agree
  refine ⟨fun ordinal within => ?_, fun slot inside =>
    (agree.lookup slot inside).trans lookup_empty⟩
  rw [agree.isTaken scope rfl]
  exact free ordinal within

/-- The constructs that have asked for a candidate in a scope have it with the numbers from zero on,
as far as these go. -/
structure IsNumbered (registry : Registry) (scope : Scope) (candidate : String)
    (asked : List Slot) : Prop where
  isTaken : ∀ ordinal ≤ ordinalLimit,
    registry.isTaken scope (variant candidate ordinal) = true ↔ ordinal < asked.length
  lookup : ∀ slot, slot.scope = scope → registry.lookup slot = numberFor candidate asked slot

/-- The answer for a construct by its place among those that ask for a name. -/
def numberedAnswer (registry : Registry) (request : Request) (place : Nat) : Answer :=
  if place ≤ ordinalLimit then .named (variant (request.wanted registry.convention) place)
  else .refused (registry.exhausted request)

theorem IsUntouched.isNumbered (untouched : registry.IsUntouched scope candidate) :
    registry.IsNumbered scope candidate [] where
  isTaken ordinal within := by simp [untouched.free ordinal within]
  lookup slot inside := by simp [untouched.unnamed slot inside, numberFor]

namespace IsNumbered

theorem of_agreesOn {later : Registry} (isNumbered : registry.IsNumbered scope candidate asked)
    (agree : registry.AgreesOn (· = scope) later) : later.IsNumbered scope candidate asked where
  isTaken ordinal within := by rw [← agree.isTaken scope rfl, isNumbered.isTaken ordinal within]
  lookup slot inside := by rw [← agree.lookup slot inside, isNumbered.lookup slot inside]

/-- More constructs have asked than there are numbers. -/
theorem isUsedUp (isNumbered : registry.IsNumbered scope candidate asked)
    (many : ordinalLimit < asked.length) : registry.IsUsedUp scope candidate :=
  fun ordinal within => (isNumbered.isTaken ordinal within).2 (by omega)

theorem isFirstFree (isNumbered : registry.IsNumbered scope candidate asked)
    (few : asked.length ≤ ordinalLimit) :
    registry.IsFirstFree scope candidate asked.length where
  le_limit := few
  free := by
    have unused := mt (isNumbered.isTaken asked.length few).1 (lt_irrefl _)
    simpa using unused
  taken smaller less := (isNumbered.isTaken smaller (by omega)).2 less

variable
  (isNumbered :
    registry.IsNumbered request.slot.scope (request.wanted registry.convention) asked)
  (derived : request.explicit = none)

include isNumbered derived

/-- A construct that has asked before is answered as before. -/
theorem step_again (again : request.slot ∈ asked) :
    registry.step (.resolve request) =
      (registry.numberedAnswer request (asked.idxOf request.slot), registry) := by
  have held := isNumbered.lookup request.slot rfl
  by_cases within : asked.idxOf request.slot ≤ ordinalLimit
  · rw [numberFor, if_pos ⟨again, within⟩] at held
    rw [step_of_lookup held, numberedAnswer, if_pos within]
  · have many : ordinalLimit < asked.length :=
      (not_le.1 within).trans (List.idxOf_lt_length_iff.2 again)
    rw [numberFor, if_neg fun both => within both.2] at held
    rw [step_of_refused held (choose_of_isUsedUp derived (isNumbered.isUsedUp many)),
      numberedAnswer, if_neg within]

/-- A construct that has not asked before gets the next number, as long as there is one. -/
theorem step_first (first : request.slot ∉ asked) :
    (registry.step (.resolve request)).1 = registry.numberedAnswer request asked.length ∧
      (registry.step (.resolve request)).2.IsNumbered request.slot.scope
        (request.wanted registry.convention) (asked ++ [request.slot]) := by
  have unnamed : registry.lookup request.slot = none := by
    rw [isNumbered.lookup request.slot rfl, numberFor, if_neg fun both => first both.1]
  have longer : (asked ++ [request.slot]).length = asked.length + 1 := by simp
  by_cases few : asked.length ≤ ordinalLimit
  · have chosen := choose_of_isFirstFree derived (isNumbered.isFirstFree few)
    rw [step_of_choose unnamed chosen, numberedAnswer, if_pos few]
    refine ⟨rfl, fun ordinal within => ?_, fun slot inside => ?_⟩
    · simp only [isTaken_assign, isNumbered.isTaken ordinal within, variant_injective.eq_iff,
        longer, true_and]
      omega
    · rw [lookup_assign]
      split
      · next same => rw [same, numberFor_concat_self first, if_pos few]
      · next differ => rw [numberFor_concat_of_ne differ, isNumbered.lookup slot inside]
  · have many : ordinalLimit < asked.length := not_le.1 few
    rw [step_of_refused unnamed (choose_of_isUsedUp derived (isNumbered.isUsedUp many)),
      numberedAnswer, if_neg few]
    -- The construct counts as having asked, although it has no name: its place is past the limit.
    refine ⟨rfl, fun ordinal within => ?_, fun slot inside => ?_⟩
    · rw [isNumbered.isTaken ordinal within, longer]
      omega
    · by_cases same : slot = request.slot
      · rw [same, numberFor_concat_self first, if_neg few, unnamed]
      · rw [numberFor_concat_of_ne same, isNumbered.lookup slot inside]

end IsNumbered

theorem eraseDups_concat :
    (prior ++ [slot]).eraseDups =
      if slot ∈ prior then prior.eraseDups else prior.eraseDups ++ [slot] := by
  rw [List.eraseDups_append]
  split
  · next member => simp [List.removeAll, member]
  · next absent =>
    have kept : [slot].removeAll prior = [slot] := by simp [List.removeAll, absent]
    rw [kept]
    rfl

/-- One request goes on with the numbers: it gets the one of its construct's place. -/
theorem IsNumbered.step_resolve
    (isNumbered : registry.IsNumbered request.slot.scope (request.wanted registry.convention)
      prior.eraseDups)
    (derived : request.explicit = none) :
    (registry.step (.resolve request)).1 =
        registry.numberedAnswer request ((prior ++ [request.slot]).eraseDups.idxOf request.slot) ∧
      (registry.step (.resolve request)).2.IsNumbered request.slot.scope
        (request.wanted registry.convention) (prior ++ [request.slot]).eraseDups := by
  rw [eraseDups_concat]
  split
  · next member =>
    rw [isNumbered.step_again derived (List.mem_eraseDups.2 member)]
    exact ⟨rfl, isNumbered⟩
  · next absent =>
    have first : request.slot ∉ prior.eraseDups := by simpa using absent
    have place : (prior.eraseDups ++ [request.slot]).idxOf request.slot =
        prior.eraseDups.length := by
      simp [List.idxOf_append_of_notMem first]
    rw [place]
    exact isNumbered.step_first derived first

theorem asked?_resolve (inside : request.slot.scope = scope) :
    (Operation.resolve request).asked? scope = some request.slot :=
  if_pos inside

theorem asked?_eq_none (elsewhere : operation.scope ≠ scope) : operation.asked? scope = none := by
  cases operation with
  | resolve request => exact if_neg elsewhere
  | reserve | isTaken | lookup => rfl

/-- Whatever else is asked, only the constructs that ask for a name go on with the numbers. -/
theorem IsNumbered.step (isNumbered : registry.IsNumbered scope candidate prior.eraseDups)
    (only : operation.WantsOnly registry.convention scope candidate) :
    (registry.step operation).2.IsNumbered scope candidate
      (prior ++ (operation.asked? scope).toList).eraseDups := by
  by_cases inside : operation.scope = scope
  · cases operation with
    | resolve request =>
        obtain ⟨derived, rfl⟩ := only inside
        obtain rfl : request.slot.scope = scope := inside
        rw [asked?_resolve rfl]
        exact (isNumbered.step_resolve derived).2
    | reserve reserved name => exact (only inside).elim
    | isTaken | lookup => simpa [Operation.asked?, Registry.step] using isNumbered
  · rw [asked?_eq_none inside, Option.toList_none, List.append_nil]
    exact isNumbered.of_agreesOn (agreesOn_step inside)

/-- In a run, each request gets the number of its construct's place: by induction on the operations,
with the constructs that have asked so far. -/
theorem IsNumbered.answer_of_mem_history (prior : List Slot) {answer : Answer}
    (isNumbered : registry.IsNumbered scope candidate prior.eraseDups)
    (only : ∀ operation ∈ operations, operation.WantsOnly registry.convention scope candidate)
    (answered : (.resolve request, answer) ∈ registry.historyIn scope operations) :
    answer = registry.numberedAnswer request
      ((prior ++ operations.filterMap (Operation.asked? scope)).eraseDups.idxOf request.slot) := by
  induction operations generalizing registry prior with
  | nil => simp [historyIn, history] at answered
  | cons operation operations ih =>
      rw [List.forall_mem_cons] at only
      have grown : registry.Extends (registry.step operation).2 := extends_step
      have split : prior ++ (operation :: operations).filterMap (Operation.asked? scope) =
          (prior ++ (operation.asked? scope).toList) ++
            operations.filterMap (Operation.asked? scope) := by
        cases asks : operation.asked? scope <;> simp [asks]
      rw [split]
      simp only [historyIn, history_cons, List.mem_filter, List.mem_cons, Prod.mk.injEq,
        decide_eq_true_eq] at answered ih
      obtain ⟨⟨rfl, rfl⟩ | later, inside⟩ := answered
      · obtain ⟨derived, rfl⟩ := only.1 inside
        obtain rfl : request.slot.scope = scope := inside
        have present : request.slot ∈ (prior ++ [request.slot]).eraseDups := by simp
        rw [asked?_resolve rfl, Option.toList_some, List.eraseDups_append,
          List.idxOf_append_of_mem present]
        exact (isNumbered.step_resolve derived).1
      · have same := ih _ (isNumbered.step only.1) (by rw [grown.convention]; exact only.2)
          ⟨later, inside⟩
        rw [same, numberedAnswer, exhausted, grown.convention, grown.service]
        rfl

/-- After any run of a new registry, a construct without a name that asks for one gets the candidate
with the least number that is free, and is refused exactly if the candidate is used up, for which
more names have to be in use in its scope than there are numbers. A scope is untouched as long as
nothing is addressed to it. In an untouched scope in which nothing but one candidate is asked for,
whatever happens elsewhere, constructs get the numbers in the order in which they first ask, and
those that come after the last number are refused. -/
theorem resolve_numbers (service : String) (convention : NamingConvention)
    (before : List Operation) :
    let new := empty service convention
    let registry := (new.run before).2
    (∀ request, request.explicit = none → registry.lookup request.slot = none →
      let scope := request.slot.scope
      let candidate := request.wanted convention
      let answer := (registry.step (.resolve request)).1
      (∀ ordinal, registry.IsFirstFree scope candidate ordinal →
        answer = .named (variant candidate ordinal)) ∧
      (answer = .refused (registry.exhausted request) ↔ registry.IsUsedUp scope candidate) ∧
      ((registry.namesInUse scope).card ≤ ordinalLimit → ∃ name, answer = .named name)) ∧
    (∀ scope candidate,
      (addressedTo scope before = [] →
        (∀ ordinal ≤ ordinalLimit, new.isTaken scope (variant candidate ordinal) = false) →
        registry.IsUntouched scope candidate) ∧
      (registry.IsUntouched scope candidate →
        ∀ after, (∀ operation ∈ after, operation.WantsOnly convention scope candidate) →
          ∀ request answer, (.resolve request, answer) ∈ registry.historyIn scope after →
            answer =
              registry.numberedAnswer request ((askedIn scope after).idxOf request.slot))) := by
  intro new registry
  have spelled : registry.convention = convention := extends_run.convention
  constructor
  · intro request derived unnamed scope candidate answer
    have named (ordinal : Nat) (first : registry.IsFirstFree scope candidate ordinal) :
        answer = .named (variant candidate ordinal) := by
      have chosen : registry.choose request =
          .ok (variant (request.wanted registry.convention) ordinal) :=
        choose_of_isFirstFree derived (by rw [spelled]; exact first)
      rw [spelled] at chosen
      exact congrArg Prod.fst (step_of_choose unnamed chosen)
    have refused (usedUp : registry.IsUsedUp scope candidate) :
        answer = .refused (registry.exhausted request) :=
      congrArg Prod.fst
        (step_of_refused unnamed (choose_of_isUsedUp derived (by rw [spelled]; exact usedUp)))
    obtain usedUp | ⟨ordinal, first⟩ := registry.isUsedUp_or_exists_isFirstFree scope candidate
    · refine ⟨named, ⟨fun _ => usedUp, refused⟩, fun few => ?_⟩
      exact (not_lt_of_ge few usedUp.lt_card).elim
    · refine ⟨named, ⟨fun answered => ?_, refused⟩, fun _ => ?_⟩
      · rw [named ordinal first] at answered
        contradiction
      · exact ⟨variant candidate ordinal, named ordinal first⟩
  · intro scope candidate
    refine ⟨isUntouched_run, fun untouched after only request answer answered => ?_⟩
    rw [← spelled] at only
    exact IsNumbered.answer_of_mem_history [] untouched.isNumbered only answered

end Registry

end ODataClient.Name
