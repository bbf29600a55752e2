import ODataClient.Proofs.Code.Merging

/-!
# Imports as requests

Every collection of imports comes of a sequence of requests, some of them made by way of collections
that have been merged into it. Whatever way they have been made, the declarations say which names
have been requested, in the order in which their sources have been requested first.
-/

namespace ODataClient.Code

/-- A request for a name from a source. -/
abbrev ImportRequest := ImportSource × String

/-- What is done to collections of imports, in order: names are asked for, and whole collections
are merged in. -/
inductive Gathering where
  | start
  | value (before : Gathering) (module name : String)
  | type (before : Gathering) (module name : String)
  | values (before : Gathering) (module : String) (names : List String)
  | merge (before other : Gathering)

namespace Gathering

/-- The imports that have been gathered in the end. -/
def imports : Gathering → Imports
  | start => .none
  | value before module name => before.imports.value module name
  | type before module name => before.imports.type module name
  | values before module names => before.imports.values module names
  | merge before other => before.imports.merge other.imports

/-- All requests, in order. Those for a collection that is merged in count from then on. -/
def requests : Gathering → List ImportRequest
  | start => []
  | value before module name => before.requests ++ [(⟨module, false⟩, name)]
  | type before module name => before.requests ++ [(⟨module, true⟩, name)]
  | values before module names =>
    before.requests ++ names.map fun name => (⟨module, false⟩, name)
  | merge before other => before.requests ++ other.requests

end Gathering

/-- The sources that names have been asked for from, each in the place where it has been asked
first. -/
structure AreFirstAsked (asked sources : List ImportSource) : Prop where
  mem_iff : ∀ source, source ∈ sources ↔ source ∈ asked
  ordered : sources.Pairwise fun first second => asked.idxOf first < asked.idxOf second

theorem AreFirstAsked.append {asked sources more others : List ImportSource}
    (early : AreFirstAsked asked sources) (late : AreFirstAsked more others) :
    AreFirstAsked (asked ++ more) (sources ++ others.filter (· ∉ sources)) where
  mem_iff source := by
    simp only [List.mem_append, List.mem_filter, decide_not, Bool.not_eq_true',
      decide_eq_false_iff_not, early.mem_iff, late.mem_iff]
    tauto
  ordered := by
    have atFirst : ∀ source ∈ sources, (asked ++ more).idxOf source = asked.idxOf source :=
      fun source member => List.idxOf_append_of_mem ((early.mem_iff source).1 member)
    have behind : ∀ source ∈ others.filter (· ∉ sources),
        (asked ++ more).idxOf source = asked.length + more.idxOf source := by
      intro source member
      have absent : source ∉ sources := by simpa using (List.mem_filter.1 member).2
      exact List.idxOf_append_of_notMem fun present => absent ((early.mem_iff source).2 present)
    refine List.pairwise_append.2 ⟨?_, ?_, ?_⟩
    · refine early.ordered.imp_of_mem fun isFirst isSecond before => ?_
      rwa [atFirst _ isFirst, atFirst _ isSecond]
    · refine (late.ordered.filter _).imp_of_mem fun isFirst isSecond before => ?_
      rw [behind _ isFirst, behind _ isSecond]
      omega
    · intro first isFirst second isSecond
      have inside : asked.idxOf first < asked.length :=
        List.idxOf_lt_length_of_mem ((early.mem_iff first).1 isFirst)
      rw [atFirst first isFirst, behind second isSecond]
      omega

namespace Imports

variable {imports other : Imports} {requests more : List ImportRequest} {source : ImportSource}
  {name : String}

/-- Imports that come of requests. -/
structure Answers (imports : Imports) (requests : List ImportRequest) : Prop where
  gathered : imports.IsGathered
  sources : AreFirstAsked (requests.map Prod.fst) imports.sources
  holds : ∀ source name, imports.Holds source name ↔ (source, name) ∈ requests

theorem answers_none : none.Answers [] where
  gathered := collects_none
  sources := ⟨fun _ => Iff.rfl, List.Pairwise.nil⟩
  holds _ _ := iff_of_false not_holds_none List.not_mem_nil

theorem answers_single : (none.insert source name).Answers [(source, name)] where
  gathered := collects_none.insert trivial
  sources := ⟨fun _ => Iff.rfl, List.pairwise_singleton _ _⟩
  holds asked other := by
    rw [holds_insert]
    simp [not_holds_none]

namespace Answers

/-- The requests for what is merged in are made behind those before. -/
theorem merge (answers : imports.Answers requests) (others : other.Answers more) :
    (imports.merge other).Answers (requests ++ more) where
  gathered := answers.gathered.merge
  sources := by
    rw [sources_merge others.gathered.sources, List.map_append]
    exact answers.sources.append others.sources
  holds source name := by
    rw [holds_merge, answers.holds, others.holds, List.mem_append]

theorem insert (answers : imports.Answers requests) :
    (imports.insert source name).Answers (requests ++ [(source, name)]) :=
  answers.merge answers_single

theorem values {module : String} {names : List String} (answers : imports.Answers requests) :
    (imports.values module names).Answers
      (requests ++ names.map fun name => (⟨module, false⟩, name)) := by
  induction names generalizing imports requests with
  | nil => simpa [Imports.values] using answers
  | cons name names ih =>
      have asked : (imports.value module name).Answers (requests ++ [(⟨module, false⟩, name)]) :=
        answers.insert
      have rest := ih asked
      rwa [List.append_assoc, List.singleton_append] at rest

end Answers

end Imports

theorem Gathering.answers (gathering : Gathering) :
    gathering.imports.Answers gathering.requests := by
  induction gathering with
  | start => exact Imports.answers_none
  | value before module name ih => exact ih.insert
  | type before module name ih => exact ih.insert
  | values before module names ih => exact ih.values
  | merge before other ih ihOther => exact ih.merge ihOther

/-- Import declarations that say what has been requested: at most one for the values and one for the
types of a module, in the order of the first requests, each with its names in order. A type is
declared unless it is requested as a value too. -/
structure Declare (requests : List ImportRequest) (groups : List ImportGroup) : Prop where
  once : (groups.map (·.source)).Nodup
  ordered : (groups.map (·.source)).Pairwise fun first second =>
    (requests.map Prod.fst).idxOf first < (requests.map Prod.fst).idxOf second
  sorted : ∀ group ∈ groups, group.names.Pairwise (· < ·)
  nonempty : ∀ group ∈ groups, group.names ≠ []
  values : ∀ module name,
    (∃ group ∈ groups, group.source = ⟨module, false⟩ ∧ name ∈ group.names) ↔
      (⟨module, false⟩, name) ∈ requests
  types : ∀ module name,
    (∃ group ∈ groups, group.source = ⟨module, true⟩ ∧ name ∈ group.names) ↔
      (⟨module, true⟩, name) ∈ requests ∧ (⟨module, false⟩, name) ∉ requests

namespace Imports

variable {imports : Imports} {requests : List ImportRequest} {allowed : String → String → Prop}

theorem sources_groups_sublist :
    (imports.groups.map (·.source)).Sublist imports.sources := by
  unfold groups sources
  induction imports.entries with
  | nil => exact List.Sublist.refl _
  | cons entry entries ih =>
      rw [List.filterMap_cons]
      split
      · exact ih.cons _
      · next group isGroup =>
        rw [group_eq isGroup]
        exact ih.cons_cons _

theorem Collects.mem_group_iff (collects : imports.Collects allowed) {source : ImportSource}
    {name : String} :
    (∃ group ∈ imports.groups, group.source = source ∧ name ∈ group.names) ↔
      imports.Holds source name ∧
        (source.typeOnly = true → ¬ imports.Holds ⟨source.module, false⟩ name) := by
  constructor
  · rintro ⟨group, member, rfl, isName⟩
    obtain ⟨entry, present, sameSource, remain⟩ := mem_groups member
    rw [remain] at isName
    rw [sameSource]
    exact (collects.mem_remaining_iff present).1 isName
  · rintro ⟨⟨entry, present, rfl, isName⟩, notValue⟩
    apply mem_groups_of_remaining present
    exact (collects.mem_remaining_iff present).2 ⟨⟨entry, present, rfl, isName⟩, notValue⟩

theorem Answers.declare (answers : imports.Answers requests) : Declare requests imports.groups where
  once := answers.gathered.sources.sublist sources_groups_sublist
  ordered := answers.sources.ordered.sublist sources_groups_sublist
  sorted group member := by
    obtain ⟨entry, present, -, remain⟩ := mem_groups member
    rw [remain]
    exact (answers.gathered.sorted entry present).sublist remaining_sublist
  nonempty _ member := names_ne_nil_of_mem_groups member
  values module name := by
    rw [answers.gathered.mem_group_iff, answers.holds]
    simp
  types module name := by
    rw [answers.gathered.mem_group_iff, answers.holds, answers.holds]
    simp

end Imports

/-- However imports have been gathered, the declarations say what has been requested. Merging is
associative and idempotent, and the order of two collections that are merged matters only for the
order of the declarations. -/
theorem groups_settle (first second third : Gathering) :
    Declare first.requests first.imports.groups ∧
    ((first.imports.merge second.imports).merge third.imports).groups =
      (first.imports.merge (second.imports.merge third.imports)).groups ∧
    (first.imports.merge first.imports).groups = first.imports.groups ∧
    (first.imports.merge second.imports).groups.Perm
      (second.imports.merge first.imports).groups := by
  have isFirst := first.answers.gathered
  have isSecond := second.answers.gathered
  have isThird := third.answers.gathered
  refine ⟨first.answers.declare, ?_, ?_, ?_⟩
  · rw [Imports.merge_assoc isFirst isSecond isThird]
  · rw [Imports.merge_self isFirst]
  · exact Imports.perm_groups_merge isFirst isSecond

/-- A type that is requested as a value later on is dropped from the types, which keep their
place. -/
example : (((Gathering.start.type "./Meal" "Meal").type "./Meal" "Other").value "./Meal"
    "Meal").imports.groups = [⟨⟨"./Meal", true⟩, ["Other"]⟩, ⟨⟨"./Meal", false⟩, ["Meal"]⟩] := by
  decide +kernel

end ODataClient.Code
