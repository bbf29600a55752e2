import ODataClient.Proofs.Text.Ascii

/-!
# Capitals

Names in upper snake case hold no small ASCII letter. Beyond ASCII the tables of case mappings decide
again, and this time about every character that they lead to.
-/

namespace ODataClient.Unicode

variable {low high : Nat} {expansions : List (Nat × List Nat)} {shifts : List Shift}
  {text : List Char} {c : Char}

/-- Whether a text has no small ASCII letter. -/
def HasNoSmall (text : List Char) : Prop := ∀ c ∈ text, c.isLower = false

instance : Decidable (HasNoSmall text) := List.decidableBAll _ text

theorem HasNoSmall.append {rest : List Char} (first : HasNoSmall text)
    (second : HasNoSmall rest) : HasNoSmall (text ++ rest) :=
  List.forall_mem_append.2 ⟨first, second⟩

/-- Characters behind a range are mapped to texts without a character of it. -/
theorem outside_of_mem_mapped (avoids : Avoids low high expansions shifts)
    (expanded : ∀ entry ∈ expansions, ∀ code ∈ entry.2, code < low ∨ high < code)
    (behind : high < c.toNat) :
    ∀ image ∈ mapped expansions shifts c, Outside low high image.toNat := by
  have begins := (beginsOutside_mapped avoids behind).1
  unfold mapped at begins ⊢
  cases found : expansions.lookup c.toNat with
  | some codes =>
      simp only [List.mem_map]
      rintro _ ⟨code, isCode, rfl⟩
      obtain ⟨before, after, split, -⟩ := List.lookup_eq_some_iff.1 found
      exact outside_ofNat avoids.positive (expanded (c.toNat, codes) (by simp [split]) code isCode)
  | none =>
      -- The text is a single character, with which it begins.
      simp only [found] at begins ⊢
      cases matched : shifts.find? (·.run.contains c.toNat) with
      | some shift =>
          simp only [matched] at begins ⊢
          exact List.forall_mem_singleton.2 (beginsOutside_cons.1 begins)
      | none =>
          simp only [matched] at begins ⊢
          exact List.forall_mem_singleton.2 (beginsOutside_cons.1 begins)

theorem hasNoSmall_toUpper : HasNoSmall (toUpper c) := by
  unfold toUpper
  split
  · next ascii =>
    have each : ∀ code < 128, (Char.ofNat code).toUpper.isLower = false := by decide +kernel
    exact List.forall_mem_singleton.2
      (of_ascii (P := fun c => c.toUpper.isLower = false) each ascii)
  · have expanded : ∀ entry ∈ upperExpansions, ∀ code ∈ entry.2, code < 97 ∨ 122 < code := by
      decide +kernel
    intro image member
    exact isLower_eq_false_of_outside
      (outside_of_mem_mapped avoids_upper expanded (by omega) image member)

end ODataClient.Unicode

namespace ODataClient.Text

open Unicode

theorem hasNoSmall_uppercase (text : List Char) : HasNoSmall (uppercase text) := by
  intro c member
  obtain ⟨source, -, image⟩ := List.mem_flatMap.1 member
  exact hasNoSmall_toUpper c image

theorem hasNoSmall_upperSnakeCase (name : String) : HasNoSmall (upperSnakeCase name).toList := by
  rw [upperSnakeCase, String.toList_intercalate, List.map_map]
  refine forall_mem_intercalate (List.forall_mem_singleton.2 (by decide)) fun text member => ?_
  obtain ⟨word, -, rfl⟩ := List.mem_map.1 member
  rw [Function.comp_apply, String.toList_ofList]
  exact hasNoSmall_uppercase word

end ODataClient.Text
