import Mathlib.Tactic.Common
import ODataClient.Text.Words

/-!
# First characters of cased names

No name in Pascal case begins with a small ASCII letter, and none in camel case with a capital one.
Beyond ASCII the tables of case mappings decide: none of them leads to the wrong range of letters.
-/

namespace ODataClient.Unicode

/-- Whether a code point lies outside of a range. -/
def Outside (low high code : Nat) : Prop := code < low ∨ high < code

/-- Whether a text, unless it is empty, begins with a character outside of a range. -/
def BeginsOutside (low high : Nat) (text : List Char) : Prop :=
  ∀ first ∈ text.head?, Outside low high first.toNat

/-- Whether a text does not begin with a small ASCII letter. -/
def BeginsNotSmall : List Char → Prop := BeginsOutside 97 122

/-- Whether a text does not begin with a capital ASCII letter. -/
def BeginsNotCapital : List Char → Prop := BeginsOutside 65 90

variable {low high : Nat} {expansions : List (Nat × List Nat)} {shifts : List Shift}
  {text rest : List Char} {c : Char}

theorem beginsOutside_nil : BeginsOutside low high [] := by
  simp [BeginsOutside]

theorem beginsOutside_cons : BeginsOutside low high (c :: text) ↔ Outside low high c.toNat := by
  simp [BeginsOutside]

theorem not_beginsOutside
    (within : (text.head?.any fun c => low ≤ c.toNat && c.toNat ≤ high) = true) :
    ¬ BeginsOutside low high text := by
  intro outside
  obtain ⟨c, head, bounds⟩ := (Option.any_eq_true _ _).1 within
  have beyond := outside c head
  simp only [Bool.and_eq_true, decide_eq_true_eq] at bounds
  unfold Outside at beyond
  omega

theorem BeginsOutside.append (first : BeginsOutside low high text)
    (second : BeginsOutside low high rest) : BeginsOutside low high (text ++ rest) := by
  cases text with
  | nil => exact second
  | cons c text => exact beginsOutside_cons.2 (beginsOutside_cons.1 first)

theorem BeginsOutside.append_of_ne_nil (first : BeginsOutside low high text)
    (present : text ≠ []) : BeginsOutside low high (text ++ rest) := by
  cases text with
  | nil => contradiction
  | cons c text => exact beginsOutside_cons.2 (beginsOutside_cons.1 first)

theorem beginsOutside_flatMap {α : Type} {items : List α} {part : α → List Char}
    (each : ∀ item, BeginsOutside low high (part item)) :
    BeginsOutside low high (items.flatMap part) := by
  induction items with
  | nil => exact beginsOutside_nil
  | cons item items ih =>
      rw [List.flatMap_cons]
      exact (each item).append ih

/-- Tables of case mappings that lead away from a range. -/
structure Avoids (low high : Nat) (expansions : List (Nat × List Nat)) (shifts : List Shift) :
    Prop where
  positive : 0 < low
  expanded : ∀ entry ∈ expansions, entry.2 ≠ [] ∧
    ∀ code ∈ entry.2.head?, code < low ∨ high < code
  shifted : ∀ shift ∈ shifts, shift.target + (shift.run.last - shift.run.first) < low ∨
    high < shift.target

theorem outside_ofNat {code : Nat} (positive : 0 < low) (outside : Outside low high code) :
    Outside low high (Char.ofNat code).toNat := by
  by_cases valid : code.isValidChar
  · have same : (Char.ofNat code).toNat = code := by
      rw [Char.ofNat, dif_pos valid]
      rfl
    rwa [same]
  · rw [Char.ofNat, dif_neg valid]
    exact .inl positive

/-- Characters behind a range are mapped to texts that begin outside of it. -/
theorem beginsOutside_mapped (avoids : Avoids low high expansions shifts)
    (behind : high < c.toNat) :
    BeginsOutside low high (mapped expansions shifts c) ∧ mapped expansions shifts c ≠ [] := by
  unfold mapped
  split
  · next codes found =>
    obtain ⟨before, after, split, -⟩ := List.lookup_eq_some_iff.1 found
    obtain ⟨present, outside⟩ := avoids.expanded (c.toNat, codes) (by simp [split])
    cases codes with
    | nil => contradiction
    | cons code codes =>
        refine ⟨beginsOutside_cons.2 (outside_ofNat avoids.positive (outside code rfl)), ?_⟩
        exact List.cons_ne_nil _ _
  · split
    · next shift found =>
      refine ⟨beginsOutside_cons.2 (outside_ofNat avoids.positive ?_), List.cons_ne_nil _ _⟩
      have within : shift.run.contains c.toNat = true := by simpa using List.find?_some found
      simp only [Run.contains, Bool.and_eq_true, decide_eq_true_eq] at within
      have apart := avoids.shifted shift (List.mem_of_find?_eq_some found)
      unfold Outside
      omega
    · exact ⟨beginsOutside_cons.2 (.inr behind), List.cons_ne_nil _ _⟩

set_option maxRecDepth 4000 in
theorem avoids_upper : Avoids 97 122 upperExpansions upperShifts := by
  constructor <;> decide +kernel

set_option maxRecDepth 4000 in
theorem avoids_lower : Avoids 65 90 lowerExpansions lowerShifts := by
  constructor <;> decide +kernel

/-- What holds of every character of ASCII by evaluation holds of one that is known to be one. -/
theorem of_ascii {P : Char → Prop} (each : ∀ code < 128, P (Char.ofNat code))
    (ascii : c.toNat < 128) : P c := by
  have found := each c.toNat ascii
  rwa [Char.ofNat_toNat] at found

theorem beginsNotSmall_toUpper : BeginsNotSmall (toUpper c) ∧ toUpper c ≠ [] := by
  unfold toUpper
  split
  · next ascii =>
    have each : ∀ code < 128, Outside 97 122 (Char.ofNat code).toUpper.toNat := by
      unfold Outside
      decide +kernel
    have outside := of_ascii (P := fun c => Outside 97 122 c.toUpper.toNat) each ascii
    exact ⟨beginsOutside_cons.2 outside, List.cons_ne_nil _ _⟩
  · exact beginsOutside_mapped avoids_upper (by omega)

theorem beginsNotCapital_toLower : BeginsNotCapital (toLower c) ∧ toLower c ≠ [] := by
  unfold toLower
  split
  · next ascii =>
    have each : ∀ code < 128, Outside 65 90 (Char.ofNat code).toLower.toNat := by
      unfold Outside
      decide +kernel
    have outside := of_ascii (P := fun c => Outside 65 90 c.toLower.toNat) each ascii
    exact ⟨beginsOutside_cons.2 outside, List.cons_ne_nil _ _⟩
  · exact beginsOutside_mapped avoids_lower (by omega)

theorem beginsNotCapital_lowercase (present : text ≠ []) :
    BeginsNotCapital (lowercase text) ∧ lowercase text ≠ [] := by
  cases text with
  | nil => contradiction
  | cons c text =>
      simp only [lowercase, lowercaseAfter]
      split
      · refine ⟨beginsOutside_cons.2 ?_, List.cons_ne_nil _ _⟩
        split <;> exact .inr (by decide)
      · obtain ⟨outside, nonempty⟩ := beginsNotCapital_toLower (c := c)
        exact ⟨outside.append_of_ne_nil nonempty, List.append_ne_nil_of_left_ne_nil nonempty _⟩

end ODataClient.Unicode

namespace ODataClient.Text

open Unicode

theorem beginsNotSmall_capitalize (word : List Char) : BeginsNotSmall (capitalize word) := by
  cases word with
  | nil => exact beginsOutside_nil
  | cons c rest => exact beginsNotSmall_toUpper.1.append_of_ne_nil beginsNotSmall_toUpper.2

theorem ne_nil_of_mem_splitWords {text word : List Char} (member : word ∈ splitWords text) :
    word ≠ [] := by
  induction text with
  | nil => simp [splitWords] at member
  | cons c text ih =>
      rw [splitWords] at member
      split at member
      · split at member
        · cases words : splitWords text with
          | nil =>
              simp only [words, extendFirst, List.mem_singleton] at member
              simp [member]
          | cons first others =>
              simp only [words, extendFirst, List.mem_cons] at member
              rcases member with rfl | later
              · exact List.cons_ne_nil _ _
              · exact ih (words ▸ List.mem_cons_of_mem first later)
        · rcases List.mem_cons.1 member with rfl | later
          · exact List.cons_ne_nil _ _
          · exact ih later
      · exact ih member

theorem beginsNotSmall_pascalCase (name : String) : BeginsNotSmall (pascalCase name).toList := by
  rw [pascalCase, String.toList_ofList]
  exact beginsOutside_flatMap beginsNotSmall_capitalize

theorem beginsNotCapital_camelCase (name : String) :
    BeginsNotCapital (camelCase name).toList := by
  unfold camelCase
  split
  · exact beginsOutside_nil
  · next first others words =>
    have present : first ≠ [] := ne_nil_of_mem_splitWords (words ▸ List.mem_cons_self)
    obtain ⟨outside, nonempty⟩ := beginsNotCapital_lowercase present
    rw [String.toList_ofList]
    exact outside.append_of_ne_nil nonempty

end ODataClient.Text
