import Mathlib.Data.List.Sort
import ODataClient.Proofs.Code.Requests

/-!
# Merged imports

A collection of imports is determined by its sources, in their order, and by the names that are asked
for from each. Merging puts the new sources behind those that are there and unites the names, so it
is associative and idempotent, and commutative up to the order of the declarations.
-/

namespace ODataClient.Code.Imports

variable {imports other first second third : Imports} {entry : ImportGroup}
  {source asked : ImportSource} {name : String} {allowed : String → String → Prop}

/-- Where names are asked for from, in the order of the declarations. -/
def sources (imports : Imports) : List ImportSource :=
  imports.entries.map (·.source)

/-- Imports that have been gathered by asking for any names from any modules. -/
abbrev IsGathered (imports : Imports) : Prop :=
  imports.Collects fun _ _ => True

/-- Asks for all names of one declaration. -/
def insertGroup (imports : Imports) (group : ImportGroup) : Imports where
  entries := insertNames group.source group.names imports.entries

theorem merge_eq_foldl : imports.merge other = other.entries.foldl insertGroup imports :=
  (List.foldl_hom Imports.mk fun _ _ => rfl).symm

theorem IsGathered.merge (gathered : imports.IsGathered) : (imports.merge other).IsGathered := by
  rw [merge_eq_foldl]
  exact Collects.foldl gathered fun _ _ _ collects => collects.insertNames fun _ _ => trivial

theorem sources_insertGroup {group : ImportGroup} : (imports.insertGroup group).sources =
    if group.source ∈ imports.sources then imports.sources
    else imports.sources ++ [group.source] :=
  sources_insertNames

theorem holds_insertGroup {group : ImportGroup} : (imports.insertGroup group).Holds asked name ↔
    imports.Holds asked name ∨ asked = group.source ∧ name ∈ group.names :=
  holds_insertNames

/-- The names asked for are united. -/
theorem holds_merge : (imports.merge other).Holds asked name ↔
    imports.Holds asked name ∨ other.Holds asked name := by
  have each : ∀ imports group asked name, (insertGroup imports group).Holds asked name ↔
      imports.Holds asked name ∨ asked = group.source ∧ name ∈ group.names :=
    fun _ _ _ _ => holds_insertGroup
  rw [merge_eq_foldl, holds_foldl each]
  simp only [Holds, eq_comm]

/-- New sources come behind those that are there. -/
theorem sources_merge (distinct : other.sources.Nodup) : (imports.merge other).sources =
    imports.sources ++ other.sources.filter (· ∉ imports.sources) := by
  rw [merge_eq_foldl]
  obtain ⟨more⟩ := other
  dsimp only [sources] at distinct ⊢
  induction more generalizing imports with
  | nil => simp
  | cons group more ih =>
      obtain ⟨absent, rest⟩ := List.nodup_cons.1 distinct
      have grown : (imports.insertGroup group).entries.map (·.source) = _ := sources_insertGroup
      rw [List.foldl_cons, ih rest, List.map_cons]
      simp only [grown]
      by_cases present : group.source ∈ imports.sources
      · rw [if_pos present, List.filter_cons_of_neg (by simpa [sources] using present)]
        rfl
      · -- The source that has just been added is not among the others.
        have apart : (more.map (·.source)).filter (· ∉ imports.sources ++ [group.source]) =
            (more.map (·.source)).filter (· ∉ imports.sources) := by
          apply List.filter_congr
          intro source member
          have differ : source ≠ group.source := by
            rintro rfl
            exact absent member
          simp [differ]
        rw [if_neg present, apart, List.filter_cons_of_pos (by simpa [sources] using present),
          List.append_assoc, List.singleton_append]
        rfl

theorem Collects.mem_names_iff (collects : imports.Collects allowed)
    (member : entry ∈ imports.entries) : name ∈ entry.names ↔ imports.Holds entry.source name := by
  constructor
  · intro present
    exact ⟨entry, member, rfl, present⟩
  · rintro ⟨other, isOther, same, present⟩
    rwa [List.inj_on_of_nodup_map collects.sources isOther member same] at present

/-- An entry is determined by its source and what is asked for from there. -/
theorem Collects.mem_entries_of_holds (collects : first.Collects allowed)
    (again : second.Collects allowed)
    (same : ∀ asked name, first.Holds asked name ↔ second.Holds asked name)
    (member : entry ∈ first.entries) (isSource : entry.source ∈ second.sources) :
    entry ∈ second.entries := by
  obtain ⟨other, isOther, sameSource⟩ := List.mem_map.1 isSource
  have sameNames : other.names = entry.names := by
    refine (again.sorted other isOther).eq_of_mem_iff (collects.sorted entry member) fun name => ?_
    rw [again.mem_names_iff isOther, collects.mem_names_iff member, same, sameSource]
  obtain ⟨source, names⟩ := entry
  obtain ⟨_, _⟩ := other
  cases sameSource
  cases sameNames
  exact isOther

/-- Collections with the same sources in the same order, and the same names from each, are the
same. -/
theorem Collects.eq_of_holds (collects : first.Collects allowed)
    (again : second.Collects allowed) (sameSources : first.sources = second.sources)
    (same : ∀ asked name, first.Holds asked name ↔ second.Holds asked name) : first = second := by
  have sameLength : first.entries.length = second.entries.length := by
    simpa [Imports.sources] using congrArg List.length sameSources
  have sameEntries : first.entries = second.entries := by
    refine List.ext_getElem sameLength fun position before after => ?_
    have isSource : first.entries[position].source ∈ second.sources :=
      sameSources ▸ List.mem_map_of_mem (List.getElem_mem before)
    refine List.inj_on_of_nodup_map again.sources ?_ (List.getElem_mem after) ?_
    · exact collects.mem_entries_of_holds again same (List.getElem_mem before) isSource
    · have inSources : position < first.sources.length := by simpa [Imports.sources] using before
      have atPosition := List.getElem_of_eq sameSources inSources
      simpa [Imports.sources] using atPosition
  obtain ⟨entries⟩ := first
  cases sameEntries
  rfl

theorem merge_assoc (isFirst : first.IsGathered) (isSecond : second.IsGathered)
    (isThird : third.IsGathered) :
    (first.merge second).merge third = first.merge (second.merge third) := by
  refine Collects.eq_of_holds isFirst.merge.merge isFirst.merge ?_ fun asked name => ?_
  · rw [sources_merge isThird.sources, sources_merge isSecond.merge.sources,
      sources_merge isSecond.sources, sources_merge isThird.sources, List.filter_append,
      List.filter_filter, List.append_assoc]
    congr 2
    apply List.filter_congr
    intro source _
    by_cases present : source ∈ first.sources <;> simp [present]
  · rw [holds_merge, holds_merge, holds_merge, holds_merge, or_assoc]

theorem merge_self (gathered : imports.IsGathered) : imports.merge imports = imports := by
  refine Collects.eq_of_holds gathered.merge gathered ?_ fun asked name => ?_
  · rw [sources_merge gathered.sources, List.append_right_eq_self, List.filter_eq_nil_iff]
    intro source member
    simp [member]
  · rw [holds_merge, or_self]

/-- Whichever collection comes first, the entries are the same. -/
theorem perm_entries_merge (isFirst : first.IsGathered) (isSecond : second.IsGathered) :
    (first.merge second).entries.Perm (second.merge first).entries := by
  have shared {one another : Imports} (isOne : one.IsGathered) (isAnother : another.IsGathered) :
      (one.merge another).entries ⊆ (another.merge one).entries := by
    intro entry member
    refine Collects.mem_entries_of_holds isOne.merge isAnother.merge ?_ member ?_
    · intro asked name
      rw [holds_merge, holds_merge, or_comm]
    · have isSource : entry.source ∈ (one.merge another).sources := List.mem_map_of_mem member
      rw [sources_merge isAnother.sources] at isSource
      rw [sources_merge isOne.sources]
      simp only [List.mem_append, List.mem_filter, decide_not, Bool.not_eq_true',
        decide_eq_false_iff_not] at isSource ⊢
      tauto
  have distinct {one : Imports} (isOne : one.IsGathered) : one.entries.Nodup :=
    List.Nodup.of_map _ isOne.sources
  rw [List.perm_ext_iff_of_nodup (distinct isFirst.merge) (distinct isSecond.merge)]
  exact fun entry => ⟨fun member => shared isFirst isSecond member,
    fun member => shared isSecond isFirst member⟩

/-- What a module gives as values is what has been asked for as values. -/
theorem Collects.mem_valuesFrom_iff (collects : imports.Collects allowed) {module : String} :
    name ∈ imports.valuesFrom module ↔ imports.Holds ⟨module, false⟩ name := by
  constructor
  · exact exists_entry_of_mem_valuesFrom
  · rintro ⟨entry, member, isValues, present⟩
    rwa [collects.valuesFrom_eq member isValues]

theorem Collects.mem_remaining_iff (collects : imports.Collects allowed)
    (member : entry ∈ imports.entries) : name ∈ imports.remaining entry ↔
      imports.Holds entry.source name ∧
        (entry.source.typeOnly = true → ¬ imports.Holds ⟨entry.source.module, false⟩ name) := by
  rw [← collects.mem_names_iff member, ← collects.mem_valuesFrom_iff, remaining]
  split
  · next areTypes => simp [areTypes]
  · next areValues => simp [areValues]

/-- The declarations do not depend on the order of the entries, but for their own order. -/
theorem perm_groups_merge (isFirst : first.IsGathered) (isSecond : second.IsGathered) :
    (first.merge second).groups.Perm (second.merge first).groups := by
  have sameValues (module name : String) : name ∈ (first.merge second).valuesFrom module ↔
      name ∈ (second.merge first).valuesFrom module := by
    rw [isFirst.merge.mem_valuesFrom_iff, isSecond.merge.mem_valuesFrom_iff, holds_merge,
      holds_merge, or_comm]
  have sameRemaining : (first.merge second).remaining = (second.merge first).remaining := by
    funext entry
    unfold remaining
    simp only [List.contains_eq_mem, sameValues]
  unfold groups
  rw [sameRemaining]
  exact (perm_entries_merge isFirst isSecond).filterMap _

end ODataClient.Code.Imports
