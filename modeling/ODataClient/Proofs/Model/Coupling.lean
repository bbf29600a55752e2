import ODataClient.Model.Service
import ODataClient.Proofs.Model.Steps
import ODataClient.Proofs.Name.Agreement

/-!
# Steps of two builds

Two builds run side by side. They may differ in what comes from auxiliary inputs, or else in the
names of factories; apart from that, each step of one does what the same step of the other does.
Each way of putting steps together keeps this.
-/

namespace ODataClient

/-- What two builds may differ in: what comes from auxiliary inputs, which is the directory of the
service and the descriptions of its parts, or else the factories of complex types. -/
inductive Leeway where
  | auxiliary
  | factories

namespace Leeway

/-- The space of the names that may differ. -/
def space : Leeway → NameSpace
  | auxiliary => .directories
  | factories => .callables

/-- What is named in a space that both builds treat alike. -/
theorem space_ne (leeway : Leeway) : NameSpace.types ≠ leeway.space ∧
    NameSpace.instanceMembers ≠ leeway.space ∧ NameSpace.staticMembers ≠ leeway.space ∧
      NameSpace.parameters ≠ leeway.space := by
  cases leeway <;> decide

/-- Whether one build may fail without the other, for want of a name. -/
def Apart (leeway : Leeway) : Prop := leeway = factories

/-- The name of a factory, unless it may differ. -/
def factory : Leeway → String → String
  | auxiliary, name => name
  | factories, _ => ""

end Leeway

/-- Two states of builds with the same findings and, outside one space, the same names. -/
structure BuildState.AgreesOutside (space : NameSpace) (first second : BuildState) : Prop where
  registry : first.registry.AgreesOutside space second.registry
  findings : first.findings = second.findings

theorem BuildState.AgreesOutside.refl {space : NameSpace} (state : BuildState) :
    state.AgreesOutside space state :=
  ⟨.refl _, rfl⟩

namespace Build

variable {α β γ δ ε : Type} {leeway : Leeway} {view : α → γ} {seen : β → δ}
  {step other : Build α} {start stop : BuildState}

/-- Two steps do the same up to a leeway: from states that agree they fail alike, or lead to states
that agree, with results that look the same. -/
def Couples (leeway : Leeway) (view : α → γ) (step other : Build α) : Prop :=
  ∀ start another, start.AgreesOutside leeway.space another →
    Outcome.Matched leeway.Apart (fun result final =>
      view result.1 = view final.1 ∧ result.2.AgreesOutside leeway.space final.2)
      (step.run start) (other.run another)

theorem Couples.bind {next after : α → Build β} (couples : Couples leeway view step other)
    (rest : ∀ value another, view value = view another →
      Couples leeway seen (next value) (after another)) :
    Couples leeway seen (step >>= next) (other >>= after) := by
  intro start another agree
  rw [StateT.run_bind, StateT.run_bind]
  refine (couples start another agree).bind ?_
  rintro ⟨value, middle⟩ ⟨same, reached⟩ ⟨alike, agree⟩
  exact rest value same alike middle reached agree

/-- Steps with equal results may be followed by whatever these lead to. -/
theorem Couples.bind_id {next after : α → Build β} (couples : Couples leeway id step other)
    (rest : ∀ value, Couples leeway seen (next value) (after value)) :
    Couples leeway seen (step >>= next) (other >>= after) := by
  refine couples.bind fun value another same => ?_
  obtain rfl : value = another := same
  exact rest value

theorem couples_pure {value another : α} (same : view value = view another) :
    Couples leeway view (pure value) (pure another) :=
  fun _ _ agree => .ok ⟨same, agree⟩

theorem couples_fail {error : ModelError} : Couples leeway view (fail error) (fail error) :=
  fun _ _ _ => .error _

theorem couples_lift {reason : ε → BuildError} {outcome : Except ε α} :
    Couples leeway view (lift reason outcome) (lift reason outcome) := by
  cases outcome with
  | error error => exact fun _ _ _ => .error _
  | ok value => exact couples_pure rfl

theorem couples_typeReference {text : String} {view : TypeReference → γ} :
    Couples leeway view (typeReference text) (typeReference text) :=
  couples_lift

theorem couples_primitive {language : TargetLanguage} {name : String}
    {view : PrimitiveMapping → γ} :
    Couples leeway view (primitive language name) (primitive language name) :=
  couples_lift

theorem couples_nameOf? {slot : Name.Slot} (outside : slot.kind.space ≠ leeway.space) :
    Couples leeway id (nameOf? slot) (nameOf? slot) :=
  fun _ _ agree => .ok ⟨agree.registry.lookup slot outside, agree⟩

theorem couples_reserve {scope : Name.Scope} {name : String} :
    Couples leeway id (reserve scope name) (reserve scope name) :=
  fun _ _ agree => .ok ⟨rfl, agree.registry.reserve, agree.findings⟩

theorem couples_report {finding : Diagnostic} :
    Couples leeway id (report finding) (report finding) :=
  fun _ _ agree => .ok ⟨rfl, agree.registry, congrArg (· ++ [finding]) agree.findings⟩

/-- Two requests for names are answered by builds as they are by the registries. -/
theorem matched_name {apart : Prop} {space : NameSpace} (related : String → String → Prop)
    {request another : Name.Request} (findings : start.findings = stop.findings)
    (matched : Outcome.Matched apart (fun answer last => related answer.1 last.1 ∧
      answer.2.AgreesOutside space last.2) (start.registry.resolve request)
        (stop.registry.resolve another)) :
    Outcome.Matched apart (fun result final => related result.1 final.1 ∧
      result.2.AgreesOutside space final.2) ((name request).run start)
        ((name another).run stop) := by
  simp only [name, StateT.run]
  generalize start.registry.resolve request = first, stop.registry.resolve another = second
    at matched
  cases matched with
  | ok alike => exact .ok ⟨alike.1, alike.2, findings⟩
  | error error => exact .error _
  | left allowed error => exact .left allowed _ _
  | right allowed outcome error => exact .right allowed _ _

theorem couples_name {request : Name.Request} (outside : request.slot.kind.space ≠ leeway.space) :
    Couples leeway id (name request) (name request) :=
  fun _ _ agree => matched_name _ agree.findings (agree.registry.resolve outside)

/-- A factory gets the same name in both builds, unless that may differ. -/
theorem couples_factory {qualifiedName typeName : String} :
    Couples leeway leeway.factory (name (.factory qualifiedName typeName))
      (name (.factory qualifiedName typeName)) := by
  intro start another agree
  refine matched_name (fun first second => leeway.factory first = leeway.factory second)
    agree.findings ?_
  cases leeway with
  | auxiliary =>
      have outside : NameKind.factory.space ≠ Leeway.auxiliary.space := by decide
      exact agree.registry.resolve outside
  | factories => exact (agree.registry.resolve_inside rfl rfl rfl).imp fun _ _ agree => ⟨rfl, agree⟩

theorem couples_memberNames {owner key : String} :
    Couples leeway id (memberNames owner key) (memberNames owner key) := by
  have named (kind : NameKind) (outside : kind.space ≠ leeway.space) :
      Couples leeway id (name (.member kind owner key)) (name (.member kind owner key)) :=
    couples_name outside
  obtain ⟨-, instances, statics, parameters⟩ := leeway.space_ne
  refine (named .instanceMember instances).bind_id fun _ => ?_
  refine (named .staticMember statics).bind_id fun _ => ?_
  refine (named .parameter parameters).bind_id fun _ => ?_
  exact couples_pure rfl

theorem couples_mapM {items : List β} {step other : β → Build α}
    (each : ∀ item ∈ items, Couples leeway view (step item) (other item)) :
    Couples leeway (List.map view) (items.mapM step) (items.mapM other) := by
  induction items with
  | nil => exact couples_pure rfl
  | cons item items ih =>
      rw [List.mapM_cons, List.mapM_cons]
      refine (each item List.mem_cons_self).bind fun _ _ same => ?_
      refine (ih fun next member => each next (List.mem_cons_of_mem item member)).bind ?_
      intro rest others alike
      exact couples_pure (congrArg₂ List.cons same alike)

theorem couples_mapM_id {items : List β} {step other : β → Build α}
    (each : ∀ item ∈ items, Couples leeway id (step item) (other item)) :
    Couples leeway id (items.mapM step) (items.mapM other) := by
  have all := couples_mapM each
  rwa [List.map_id_fun] at all

/-- Where both steps succeed, their results look the same and their states agree. -/
theorem Couples.alike {another last : BuildState} {value final : α}
    (couples : Couples leeway view step other) (agree : start.AgreesOutside leeway.space another)
    (ran : step.run start = .ok (value, stop)) (ranToo : other.run another = .ok (final, last)) :
    view value = view final ∧ stop.AgreesOutside leeway.space last := by
  have matched := couples start another agree
  rw [ran, ranToo] at matched
  exact matched.related_of_ok

end Build

end ODataClient
