import Mathlib.Data.List.Nodup
import Mathlib.Data.String.Basic
import ODataClient.Code.Imports

/-!
# Imports without repetition

Names are gathered under distinct sources and stay sorted, in whatever order they are asked for. So
no name is imported twice, unless it has been asked for from two modules.
-/

namespace ODataClient.Code

variable {source : ImportSource} {module name other : String} {names : List String}

theorem mem_insertName : other ∈ insertName name names ↔ other = name ∨ other ∈ names := by
  induction names with
  | nil => simp [insertName]
  | cons first names ih =>
      unfold insertName
      split
      · exact List.mem_cons
      · split
        · next same => simp [same]
        · rw [List.mem_cons, List.mem_cons, ih]
          exact or_left_comm

theorem sorted_insertName (sorted : names.Pairwise (· < ·)) :
    (insertName name names).Pairwise (· < ·) := by
  induction names with
  | nil => simp [insertName]
  | cons first names ih =>
      obtain ⟨least, rest⟩ := List.pairwise_cons.1 sorted
      unfold insertName
      split
      · next before =>
        refine List.pairwise_cons.2 ⟨fun other member => ?_, sorted⟩
        rcases List.mem_cons.1 member with rfl | later
        · exact before
        · exact lt_trans before (least other later)
      · next notBefore =>
        split
        · exact sorted
        · next differ =>
          refine List.pairwise_cons.2 ⟨fun other member => ?_, ih rest⟩
          rcases mem_insertName.1 member with rfl | present
          · exact lt_of_le_of_ne (not_lt.1 notBefore) (Ne.symm differ)
          · exact least other present

theorem mem_foldl_insertName {held : List String} :
    other ∈ names.foldl (fun sorted name => insertName name sorted) held ↔
      other ∈ names ∨ other ∈ held := by
  induction names generalizing held with
  | nil => simp
  | cons first names ih =>
      rw [List.foldl_cons, ih, mem_insertName, List.mem_cons, or_assoc]
      exact or_left_comm

theorem sorted_foldl_insertName {held : List String} (sorted : held.Pairwise (· < ·)) :
    (names.foldl (fun sorted name => insertName name sorted) held).Pairwise (· < ·) :=
  List.foldlRecOn names _ sorted fun _ sorted _ _ => sorted_insertName sorted

namespace Imports

variable {entries : List ImportGroup} {entry group : ImportGroup} {imports : Imports}
  {allowed : String → String → Prop}

/-- A source that is new comes last, and the others keep their places. -/
theorem sources_insertNames :
    (insertNames source names entries).map (·.source) =
      if source ∈ entries.map (·.source) then entries.map (·.source)
      else entries.map (·.source) ++ [source] := by
  induction entries with
  | nil => simp [insertNames]
  | cons first entries ih =>
      unfold insertNames
      split
      · next same => simp [same]
      · next differ =>
        rw [List.map_cons, ih]
        by_cases present : source ∈ entries.map (·.source) <;> simp [present, Ne.symm differ]

theorem nodup_sources_insertNames (distinct : (entries.map (·.source)).Nodup) :
    ((insertNames source names entries).map (·.source)).Nodup := by
  rw [sources_insertNames]
  split
  · exact distinct
  · next absent =>
    rw [← List.concat_eq_append]
    exact List.Nodup.concat absent distinct

/-- Only the entry of its source is changed when names are asked for. -/
theorem mem_insertNames (member : entry ∈ insertNames source names entries) :
    entry ∈ entries ∨ (entry.source = source ∧ ∃ held,
      (held = [] ∨ ∃ before ∈ entries, before.source = source ∧ before.names = held) ∧
        entry.names = names.foldl (fun sorted name => insertName name sorted) held) := by
  induction entries with
  | nil =>
      rw [insertNames, List.mem_singleton] at member
      exact .inr (member ▸ ⟨rfl, [], .inl rfl, rfl⟩)
  | cons first entries ih =>
      unfold insertNames at member
      split at member
      · next same =>
        rcases List.mem_cons.1 member with rfl | later
        · exact .inr ⟨same, first.names, .inr ⟨first, List.mem_cons_self, same, rfl⟩, rfl⟩
        · exact .inl (List.mem_cons_of_mem first later)
      · rcases List.mem_cons.1 member with rfl | later
        · exact .inl List.mem_cons_self
        · rcases ih later with present | ⟨same, held, isNew | ⟨before, present, isBefore⟩, added⟩
          · exact .inl (List.mem_cons_of_mem first present)
          · exact .inr ⟨same, held, .inl isNew, added⟩
          · exact .inr ⟨same, held, .inr ⟨before, List.mem_cons_of_mem first present, isBefore⟩,
              added⟩

/-- Imports that have been gathered by asking for names from modules that are allowed to give
them. -/
structure Collects (allowed : String → String → Prop) (imports : Imports) : Prop where
  sources : (imports.entries.map (·.source)).Nodup
  sorted : ∀ entry ∈ imports.entries, entry.names.Pairwise (· < ·)
  given : ∀ entry ∈ imports.entries, ∀ name ∈ entry.names, allowed entry.source.module name

theorem collects_none : none.Collects allowed := by
  constructor <;> simp [none]

namespace Collects

theorem insertNames (collects : imports.Collects allowed)
    (given : ∀ name ∈ names, allowed source.module name) :
    Collects allowed { entries := insertNames source names imports.entries } := by
  refine ⟨nodup_sources_insertNames collects.sources, ?_, ?_⟩
  · intro entry member
    rcases mem_insertNames member with present | ⟨-, held, isHeld, added⟩
    · exact collects.sorted entry present
    · rw [added]
      apply sorted_foldl_insertName
      rcases isHeld with rfl | ⟨before, present, -, rfl⟩
      · exact List.Pairwise.nil
      · exact collects.sorted before present
  · intro entry member other isName
    rcases mem_insertNames member with present | ⟨same, held, isHeld, added⟩
    · exact collects.given entry present other isName
    · rw [same]
      rw [added] at isName
      rcases mem_foldl_insertName.1 isName with isNew | earlier
      · exact given other isNew
      · rcases isHeld with rfl | ⟨before, present, isBefore, rfl⟩
        · exact (List.not_mem_nil earlier).elim
        · rw [← isBefore]
          exact collects.given before present other earlier

theorem insert (collects : imports.Collects allowed) (given : allowed source.module name) :
    (imports.insert source name).Collects allowed :=
  collects.insertNames fun _ member => List.mem_singleton.1 member ▸ given

theorem value (collects : imports.Collects allowed) (given : allowed module name) :
    (imports.value module name).Collects allowed :=
  collects.insert given

theorem type (collects : imports.Collects allowed) (given : allowed module name) :
    (imports.type module name).Collects allowed :=
  collects.insert given

theorem foldl {α : Type} {items : List α} {ask : Imports → α → Imports}
    (collects : imports.Collects allowed)
    (asked : ∀ imports : Imports, ∀ item ∈ items, imports.Collects allowed →
      (ask imports item).Collects allowed) :
    (items.foldl ask imports).Collects allowed :=
  List.foldlRecOn items ask collects fun imports collects item member =>
    asked imports item member collects

theorem values (collects : imports.Collects allowed)
    (given : ∀ name ∈ names, allowed module name) :
    (imports.values module names).Collects allowed :=
  collects.foldl fun _ name member collects => collects.value (given name member)

end Collects

theorem group_eq (isGroup :
    (if (imports.remaining entry).isEmpty then Option.none
      else some { entry with names := imports.remaining entry }) = some group) :
    group = { entry with names := imports.remaining entry } := by
  split at isGroup
  · contradiction
  · exact (Option.some.inj isGroup).symm

theorem mem_groups (member : group ∈ imports.groups) : ∃ entry ∈ imports.entries,
    group.source = entry.source ∧ group.names = imports.remaining entry := by
  obtain ⟨entry, present, isGroup⟩ := List.mem_filterMap.1 member
  rw [group_eq isGroup]
  exact ⟨entry, present, rfl, rfl⟩

theorem remaining_sublist : (imports.remaining entry).Sublist entry.names := by
  unfold remaining
  split
  · exact List.filter_sublist
  · exact List.Sublist.refl _

theorem Collects.given_of_mem_groups (collects : imports.Collects allowed)
    (member : group ∈ imports.groups) (isName : name ∈ group.names) :
    allowed group.source.module name := by
  obtain ⟨entry, present, source, remain⟩ := mem_groups member
  rw [source]
  rw [remain] at isName
  exact collects.given entry present name (remaining_sublist.subset isName)

theorem Collects.valuesFrom_eq (collects : imports.Collects allowed)
    (member : entry ∈ imports.entries) (isValues : entry.source = ⟨module, false⟩) :
    imports.valuesFrom module = entry.names := by
  have isFound : (imports.entries.find? (·.source = ⟨module, false⟩)).isSome :=
    List.find?_isSome.2 ⟨entry, member, by simpa using isValues⟩
  obtain ⟨other, found⟩ := Option.isSome_iff_exists.1 isFound
  have otherSource : other.source = ⟨module, false⟩ := by simpa using List.find?_some found
  have same := List.inj_on_of_nodup_map collects.sources (List.mem_of_find?_eq_some found) member
    (otherSource.trans isValues.symm)
  rw [valuesFrom, found, same]
  rfl

/-- What a module gives as a value is not imported from it as a type too. -/
theorem Collects.notMem_remaining (collects : imports.Collects allowed) {types : ImportGroup}
    (member : entry ∈ imports.entries) (isValues : entry.source = ⟨module, false⟩)
    (areTypes : types.source = ⟨module, true⟩) (present : name ∈ entry.names) :
    name ∉ imports.remaining types := by
  intro remains
  simp only [remaining, areTypes, if_true, collects.valuesFrom_eq member isValues] at remains
  simp [present] at remains

theorem Collects.disjoint_remaining (collects : imports.Collects allowed)
    (once : ∀ name module other, allowed module name → allowed other name → module = other)
    {second : ImportGroup} (member : entry ∈ imports.entries) (isSecond : second ∈ imports.entries)
    (differ : entry.source ≠ second.source) :
    (imports.remaining entry).Disjoint (imports.remaining second) := by
  intro name remains again
  have present := remaining_sublist.subset remains
  have presentAgain := remaining_sublist.subset again
  have module := once name _ _ (collects.given entry member name present)
    (collects.given second isSecond name presentAgain)
  -- Two entries of one module are one for values and one for types, and the types give way.
  obtain ⟨⟨place, typeOnly⟩, names⟩ := entry
  obtain ⟨⟨_, otherTypeOnly⟩, otherNames⟩ := second
  obtain rfl : place = _ := module
  cases typeOnly with
  | false =>
      cases otherTypeOnly with
      | false => exact differ rfl
      | true => exact collects.notMem_remaining member rfl rfl present again
  | true =>
      cases otherTypeOnly with
      | false => exact collects.notMem_remaining isSecond rfl rfl presentAgain remains
      | true => exact differ rfl

/-- No name is imported twice, where each may come from one module only. -/
theorem Collects.nodup_names (collects : imports.Collects allowed)
    (once : ∀ name module other, allowed module name → allowed other name → module = other) :
    (imports.groups.flatMap (·.names)).Nodup := by
  refine List.nodup_flatMap.2 ⟨?_, ?_⟩
  · intro group member
    obtain ⟨entry, present, -, remain⟩ := mem_groups member
    have distinct : entry.names.Nodup := (collects.sorted entry present).imp fun before => before.ne
    exact remain ▸ distinct.sublist remaining_sublist
  · have entries : imports.entries.Pairwise fun entry second =>
        (imports.remaining entry).Disjoint (imports.remaining second) := by
      have distinct := List.pairwise_map.1 collects.sources
      refine distinct.imp_of_mem fun member isSecond differ => ?_
      exact collects.disjoint_remaining once member isSecond differ
    refine List.pairwise_filterMap.2 (entries.imp ?_)
    intro entry second disjoint group isGroup other isOther
    rw [group_eq isGroup, group_eq isOther]
    exact disjoint

end Imports

end ODataClient.Code
