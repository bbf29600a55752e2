import ODataClient.Proofs.Code.Imports

/-!
# Requests for names

Which names have been asked for, and from where. What has been asked for is imported in the end,
and nothing else is.
-/

namespace ODataClient.Code.Imports

variable {imports : Imports} {entries : List ImportGroup} {source asked : ImportSource}
  {module name other : String} {names : List String}

/-- Whether a name has been asked for from a source. -/
def Holds (imports : Imports) (source : ImportSource) (name : String) : Prop :=
  ∃ entry ∈ imports.entries, entry.source = source ∧ name ∈ entry.names

theorem not_holds_none : ¬ none.Holds source name := by
  rintro ⟨entry, member, -⟩
  exact List.not_mem_nil member

theorem holds_insertNames :
    (∃ entry ∈ insertNames source names entries, entry.source = asked ∧ other ∈ entry.names) ↔
      (∃ entry ∈ entries, entry.source = asked ∧ other ∈ entry.names) ∨
        asked = source ∧ other ∈ names := by
  induction entries with
  | nil => simp [insertNames, mem_foldl_insertName, eq_comm]
  | cons first entries ih =>
      unfold insertNames
      split
      · next same =>
        simp only [List.mem_cons, exists_eq_or_imp, mem_foldl_insertName]
        subst same
        grind
      · simp only [List.mem_cons, exists_eq_or_imp, ih, or_assoc]

theorem holds_insert : (imports.insert source name).Holds asked other ↔
    imports.Holds asked other ∨ asked = source ∧ other = name := by
  rw [← List.mem_singleton (b := name)]
  exact holds_insertNames

theorem holds_value : (imports.value module name).Holds asked other ↔
    imports.Holds asked other ∨ asked = ⟨module, false⟩ ∧ other = name :=
  holds_insert

theorem holds_type : (imports.type module name).Holds asked other ↔
    imports.Holds asked other ∨ asked = ⟨module, true⟩ ∧ other = name :=
  holds_insert

/-- Where something is asked for on behalf of each item, all of that is asked for together. -/
theorem holds_foldl {α : Type} {items : List α} {ask : Imports → α → Imports}
    {asks : α → ImportSource → String → Prop}
    (each : ∀ imports item source name,
      (ask imports item).Holds source name ↔ imports.Holds source name ∨ asks item source name) :
    (items.foldl ask imports).Holds source name ↔
      imports.Holds source name ∨ ∃ item ∈ items, asks item source name := by
  induction items generalizing imports with
  | nil => simp
  | cons item items ih =>
      rw [List.foldl_cons, ih, each, List.exists_mem_cons_iff, or_assoc]

theorem holds_values : (imports.values module names).Holds asked other ↔
    imports.Holds asked other ∨ asked = ⟨module, false⟩ ∧ other ∈ names := by
  have each : ∀ imports name asked other, (value imports module name).Holds asked other ↔
      imports.Holds asked other ∨ asked = ⟨module, false⟩ ∧ other = name :=
    fun _ _ _ _ => holds_value
  rw [values, holds_foldl each]
  simp [and_comm]

theorem holds_of_mem_groups {group : ImportGroup} (member : group ∈ imports.groups)
    (isName : name ∈ group.names) : imports.Holds group.source name := by
  obtain ⟨entry, present, source, remain⟩ := mem_groups member
  rw [remain] at isName
  exact ⟨entry, present, source.symm, remaining_sublist.subset isName⟩

theorem names_ne_nil_of_mem_groups {group : ImportGroup} (member : group ∈ imports.groups) :
    group.names ≠ [] := by
  obtain ⟨entry, -, isGroup⟩ := List.mem_filterMap.1 member
  dsimp only at isGroup
  split at isGroup
  · contradiction
  · next present =>
    cases isGroup
    exact fun absent => present (List.isEmpty_iff.2 absent)

theorem mem_groups_of_remaining {entry : ImportGroup} (member : entry ∈ imports.entries)
    (remains : name ∈ imports.remaining entry) :
    ∃ group ∈ imports.groups, group.source = entry.source ∧ name ∈ group.names := by
  have present : (imports.remaining entry).isEmpty = false :=
    List.isEmpty_eq_false_iff.2 (List.ne_nil_of_mem remains)
  refine ⟨{ entry with names := imports.remaining entry }, ?_, rfl, remains⟩
  exact List.mem_filterMap.2 ⟨entry, member, by simp [present]⟩

theorem exists_entry_of_mem_valuesFrom (member : name ∈ imports.valuesFrom module) :
    ∃ entry ∈ imports.entries, entry.source = ⟨module, false⟩ ∧ name ∈ entry.names := by
  unfold valuesFrom at member
  cases found : imports.entries.find? (·.source = ⟨module, false⟩) with
  | none => simp [found] at member
  | some entry =>
      rw [found] at member
      exact ⟨entry, List.mem_of_find?_eq_some found, by simpa using List.find?_some found, member⟩

/-- What has been asked for is imported from the module that it was asked for from. -/
theorem Holds.exists_group (holds : imports.Holds source name) :
    ∃ group ∈ imports.groups, group.source.module = source.module ∧ name ∈ group.names := by
  obtain ⟨entry, member, rfl, present⟩ := holds
  by_cases remains : name ∈ imports.remaining entry
  · obtain ⟨group, isGroup, same, isName⟩ := mem_groups_of_remaining member remains
    exact ⟨group, isGroup, congrArg ImportSource.module same, isName⟩
  · -- A type that is dropped is imported as a value.
    have isValue : name ∈ imports.valuesFrom entry.source.module := by
      unfold remaining at remains
      split at remains
      · by_contra notValue
        exact remains (List.mem_filter.2 ⟨present, by simpa using notValue⟩)
      · contradiction
    obtain ⟨values, areValues, fromModule, isName⟩ := exists_entry_of_mem_valuesFrom isValue
    have stays : name ∈ imports.remaining values := by
      rw [remaining, fromModule]
      exact isName
    obtain ⟨group, isGroup, same, isImported⟩ := mem_groups_of_remaining areValues stays
    exact ⟨group, isGroup, by rw [same, fromModule], isImported⟩

/-- The names that are imported are those that have been asked for. -/
theorem exists_mem_groups_iff :
    (∃ group ∈ imports.groups, name ∈ group.names) ↔ ∃ source, imports.Holds source name := by
  constructor
  · rintro ⟨group, member, isName⟩
    exact ⟨group.source, holds_of_mem_groups member isName⟩
  · rintro ⟨source, holds⟩
    obtain ⟨group, member, -, isName⟩ := holds.exists_group
    exact ⟨group, member, isName⟩

end ODataClient.Code.Imports
