import ODataClient.Name.Source
import ODataClient.Proofs.Text.Words

/-!
# Class names without `Collection`

The `Collection` behind the name of an entity set is a word of its own, whatever the rest of the
name ends with, so that it adds the same to every name in Pascal case. Where it is dropped from two
names and the rests are alike, the names have been alike before.
-/

namespace ODataClient.Name

open Text

variable {ending text stem name : String} {all : List String}

theorem beforeEnd?_eq_some (found : beforeEnd? ending text = some stem) :
    text = stem ++ ending := by
  unfold beforeEnd? at found
  split at found
  · next isEnd =>
    rcases List.isSuffixOf_iff_suffix.1 isEnd with ⟨before, split⟩
    cases found
    have length : text.length - ending.length = before.length := by
      rw [← String.length_toList, ← String.length_toList, ← split, List.length_append]
      omega
    apply String.toList_injective
    rw [length, ← split, List.take_left, String.toList_append, String.toList_ofList, split]
  · contradiction

theorem withoutTypeMark_suffix (name : String) :
    (withoutTypeMark name).toList <:+ name.toList := by
  unfold withoutTypeMark
  split
  · next rest found =>
    split
    · exact List.suffix_rfl
    · unfold afterStart? at found
      split at found
      · cases found
        rw [String.toList_ofList]
        exact List.drop_suffix _ _
      · contradiction
  · exact List.suffix_rfl

/-- A set is named without its mark, or without a `Collection` at the end as well if no other set
leads to that name. -/
theorem entityClassSource_cases (entitySet : String) (all : List String) :
    entityClassSource entitySet all = withoutTypeMark entitySet ∨
      withoutTypeMark entitySet = entityClassSource entitySet all ++ "Collection" ∧
        ∀ other ∈ all, other ≠ entitySet →
          pascalCase (withoutTypeMark other) ≠ pascalCase (entityClassSource entitySet all) := by
  delta entityClassSource
  cases found : beforeEnd? "Collection" (withoutTypeMark entitySet) with
  | none => simp [found]
  | some stem =>
      by_cases bare : stem = ""
      · simp [found, bare]
      · simp only [found, bare, if_false]
        split
        · exact .inl rfl
        · next unclashing =>
          right
          refine ⟨beforeEnd?_eq_some found, fun other isOther differ same => unclashing ?_⟩
          rw [List.any_eq_true]
          exact ⟨other, isOther, by simp [differ, same]⟩

/-- A word ends before `Collection`: behind a small letter and a digit because of the capital, and
behind a capital because of the small letter that follows. -/
theorem continuesInto_collection {c : Char} (ascii : c.toNat < 128)
    (isLetter : Unicode.isAlphanumeric c = true) :
    continuesInto c "Collection".toList = false := by
  have each : ∀ code < 128, Unicode.isAlphanumeric (Char.ofNat code) = true →
      continuesInto (Char.ofNat code) "Collection".toList = false := by
    decide +kernel
  exact Unicode.of_ascii (P := fun c => Unicode.isAlphanumeric c = true →
    continuesInto c "Collection".toList = false) each ascii isLetter

theorem pascalCase_append_collection (ascii : IsAscii stem.toList) :
    pascalCase (stem ++ "Collection") = pascalCase stem ++ "Collection" := by
  have apart : splitWords (stem ++ "Collection").toList =
      splitWords stem.toList ++ splitWords "Collection".toList := by
    rw [String.toList_append]
    apply splitWords_append
    · intro last isLast
      exact continuesInto_collection (ascii last (List.mem_of_getLast? isLast))
    · decide
  have capitalized : (splitWords "Collection".toList).flatMap capitalize = "Collection".toList := by
    decide
  apply String.toList_injective
  rw [String.toList_append, pascalCase, pascalCase, apart, List.flatMap_append, capitalized]
  simp only [String.toList_ofList]

theorem isAscii_withoutTypeMark (ascii : IsAscii name.toList) :
    IsAscii (withoutTypeMark name).toList :=
  fun c member => ascii c ((withoutTypeMark_suffix name).subset member)

/-- Dropping `Collection` makes no two names of entity sets alike: sets of which the classes would
be named alike would be so with `Collection` at the end as well. -/
theorem pascalCase_eq_of_entityClassSource {first second : String}
    (ascii : ∀ entitySet ∈ all, IsAscii entitySet.toList)
    (isFirst : first ∈ all) (isSecond : second ∈ all) (differ : first ≠ second)
    (same : pascalCase (entityClassSource first all) = pascalCase (entityClassSource second all)) :
    pascalCase (withoutTypeMark first) = pascalCase (withoutTypeMark second) := by
  rcases entityClassSource_cases first all with kept | ⟨dropped, firstFree⟩
  · rcases entityClassSource_cases second all with keptToo | ⟨-, secondFree⟩
    · rw [← kept, same, keptToo]
    · -- The second set keeps its ending if the first leads to the shortened name.
      refine (secondFree first isFirst differ ?_).elim
      rw [← kept, same]
  · rcases entityClassSource_cases second all with kept | ⟨droppedToo, -⟩
    · refine (firstFree second isSecond differ.symm ?_).elim
      rw [← kept, same]
    · have stemAscii {entitySet stem : String} (member : entitySet ∈ all)
          (split : withoutTypeMark entitySet = stem ++ "Collection") : IsAscii stem.toList := by
        intro c inStem
        apply isAscii_withoutTypeMark (ascii entitySet member)
        rw [split, String.toList_append]
        exact List.mem_append_left _ inStem
      calc pascalCase (withoutTypeMark first)
        _ = pascalCase (entityClassSource first all ++ "Collection") := by rw [← dropped]
        _ = pascalCase (entityClassSource first all) ++ "Collection" :=
            pascalCase_append_collection (stemAscii isFirst dropped)
        _ = pascalCase (entityClassSource second all) ++ "Collection" := by rw [same]
        _ = pascalCase (entityClassSource second all ++ "Collection") :=
            (pascalCase_append_collection (stemAscii isSecond droppedToo)).symm
        _ = pascalCase (withoutTypeMark second) := by rw [← droppedToo]

/-- Two sets that both lose `Collection`, one of them with a separator in front of it. -/
theorem pascalCase_eq_of_entityClassSource_orders :
    let all := ["A_OrderCollection", "order_Collection", "Customer"]
    pascalCase (entityClassSource "A_OrderCollection" all) =
        pascalCase (entityClassSource "order_Collection" all) ∧
      pascalCase (withoutTypeMark "A_OrderCollection") =
        pascalCase (withoutTypeMark "order_Collection") := by
  intro all
  have same : pascalCase (entityClassSource "A_OrderCollection" all) =
      pascalCase (entityClassSource "order_Collection" all) := by
    decide +kernel
  refine ⟨same, pascalCase_eq_of_entityClassSource ?_ (by decide) (by decide) (by decide) same⟩
  decide +kernel

/-- Behind a letter without case, `Collection` is no word of its own. -/
example :
    let all := ["日Collection", "日_Collection"]
    pascalCase (entityClassSource "日Collection" all) =
        pascalCase (entityClassSource "日_Collection" all) ∧
      pascalCase (withoutTypeMark "日Collection") ≠
        pascalCase (withoutTypeMark "日_Collection") := by
  decide +kernel

end ODataClient.Name
