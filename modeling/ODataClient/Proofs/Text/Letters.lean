import ODataClient.Proofs.Text.Casing

/-!
# Characters of cased names

Beyond ASCII, names in Pascal case may hold any character. Within ASCII they only hold letters and
digits, since words are made of these and no case mapping leads away from them.
-/

namespace ODataClient.Unicode

/-- Characters that may stand in names: letters, digits, the underscore, and whatever is not in
ASCII. -/
def isNameChar (c : Char) : Bool := decide (128 ≤ c.toNat) || c.isAlphanum || c == '_'

/-- Whether a text is made of characters that may stand in names. -/
def IsNameText (text : List Char) : Prop := ∀ c ∈ text, isNameChar c = true

variable {expansions : List (Nat × List Nat)} {shifts : List Shift} {text rest : List Char}
  {c : Char}

instance : Decidable (IsNameText text) := List.decidableBAll _ text

theorem IsNameText.append (first : IsNameText text) (second : IsNameText rest) :
    IsNameText (text ++ rest) := by
  intro c member
  rcases List.mem_append.1 member with inFirst | inSecond
  · exact first c inFirst
  · exact second c inSecond

theorem isNameText_flatMap {α : Type} {items : List α} {part : α → List Char}
    (each : ∀ item ∈ items, IsNameText (part item)) : IsNameText (items.flatMap part) := by
  intro c member
  obtain ⟨item, isItem, inPart⟩ := List.mem_flatMap.1 member
  exact each item isItem c inPart

theorem isNameText_singleton (isName : isNameChar c = true) : IsNameText [c] := by
  intro other member
  exact List.mem_singleton.1 member ▸ isName

theorem isNameChar_of_beyond (beyond : 128 ≤ c.toNat) : isNameChar c = true := by
  simp [isNameChar, beyond]

theorem isNameChar_of_isAlphanumeric (isLetter : isAlphanumeric c = true) :
    isNameChar c = true := by
  unfold isAlphanumeric at isLetter
  split at isLetter
  · simp [isNameChar, isLetter]
  · exact isNameChar_of_beyond (by omega)

/-- Whether a shift ends at one character of a name, or at a run of characters beyond ASCII that
surrogates are no part of. -/
def Shift.EndsInNames (shift : Shift) : Prop :=
  (shift.run.first = shift.run.last ∧ isNameChar (Char.ofNat shift.target) = true) ∨
    128 ≤ shift.target ∧ (shift.target + (shift.run.last - shift.run.first) < 0xD800 ∨
      0xDFFF < shift.target ∧ shift.target + (shift.run.last - shift.run.first) < 0x110000)

instance {shift : Shift} : Decidable shift.EndsInNames :=
  inferInstanceAs (Decidable (_ ∨ _))

/-- Tables of case mappings that lead to characters of names only. -/
structure LeadsToNames (expansions : List (Nat × List Nat)) (shifts : List Shift) : Prop where
  expanded : ∀ entry ∈ expansions, IsNameText (entry.2.map Char.ofNat)
  shifted : ∀ shift ∈ shifts, shift.EndsInNames

theorem Shift.EndsInNames.isNameChar {shift : Shift} (ends : shift.EndsInNames)
    (within : shift.run.contains c.toNat = true) :
    isNameChar (Char.ofNat (shift.target + (c.toNat - shift.run.first))) = true := by
  simp only [Run.contains, Bool.and_eq_true, decide_eq_true_eq] at within
  rcases ends with ⟨single, isName⟩ | ⟨beyond, valid⟩
  · have same : c.toNat - shift.run.first = 0 := by omega
    rwa [same, Nat.add_zero]
  · have isValid : (shift.target + (c.toNat - shift.run.first)).isValidChar := by
      unfold Nat.isValidChar
      omega
    refine isNameChar_of_beyond ?_
    have code : (Char.ofNat (shift.target + (c.toNat - shift.run.first))).toNat =
        shift.target + (c.toNat - shift.run.first) := by
      rw [Char.ofNat, dif_pos isValid]
      rfl
    omega

theorem isNameText_mapped (leads : LeadsToNames expansions shifts) (isName : isNameChar c = true) :
    IsNameText (mapped expansions shifts c) := by
  unfold mapped
  split
  · next codes found =>
    obtain ⟨before, after, split, -⟩ := List.lookup_eq_some_iff.1 found
    exact leads.expanded (c.toNat, codes) (by simp [split])
  · split
    · next shift found =>
      have within : shift.run.contains c.toNat = true := by simpa using List.find?_some found
      exact isNameText_singleton
        ((leads.shifted shift (List.mem_of_find?_eq_some found)).isNameChar within)
    · exact isNameText_singleton isName

set_option maxRecDepth 4000 in
theorem leadsToNames_upper : LeadsToNames upperExpansions upperShifts := by
  constructor <;> decide +kernel

set_option maxRecDepth 4000 in
theorem leadsToNames_lower : LeadsToNames lowerExpansions lowerShifts := by
  constructor <;> decide +kernel

theorem isNameText_toUpper (isName : isNameChar c = true) : IsNameText (toUpper c) := by
  unfold toUpper
  split
  · next ascii =>
    have each : ∀ code < 128, isNameChar (Char.ofNat code) = true →
        isNameChar (Char.ofNat code).toUpper = true := by
      decide +kernel
    have upper := of_ascii (P := fun c => isNameChar c = true → isNameChar c.toUpper = true)
      each ascii
    exact isNameText_singleton (upper isName)
  · exact isNameText_mapped leadsToNames_upper isName

theorem isNameText_toLower (isName : isNameChar c = true) : IsNameText (toLower c) := by
  unfold toLower
  split
  · next ascii =>
    have each : ∀ code < 128, isNameChar (Char.ofNat code) = true →
        isNameChar (Char.ofNat code).toLower = true := by
      decide +kernel
    have lower := of_ascii (P := fun c => isNameChar c = true → isNameChar c.toLower = true)
      each ascii
    exact isNameText_singleton (lower isName)
  · exact isNameText_mapped leadsToNames_lower isName

end ODataClient.Unicode

namespace ODataClient.Text

open Unicode

theorem isNameText_capitalize {word : List Char} (isName : IsNameText word) :
    IsNameText (capitalize word) := by
  cases word with
  | nil => exact isName
  | cons c rest =>
      refine (isNameText_toUpper (isName c List.mem_cons_self)).append ?_
      exact isNameText_flatMap fun other member =>
        isNameText_toLower (isName other (List.mem_cons_of_mem _ member))

/-- Words are made of letters and numbers. -/
theorem isNameText_of_mem_splitWords {text word : List Char} (member : word ∈ splitWords text) :
    IsNameText word := by
  induction text generalizing word with
  | nil => simp [splitWords] at member
  | cons c text ih =>
      rw [splitWords] at member
      split at member
      · next isLetter =>
        have isName := isNameText_singleton (isNameChar_of_isAlphanumeric isLetter)
        split at member
        · cases words : splitWords text with
          | nil =>
              simp only [words, extendFirst, List.mem_singleton] at member
              exact member ▸ isName
          | cons first others =>
              simp only [words, extendFirst, List.mem_cons] at member
              rcases member with rfl | later
              · exact isName.append (ih (words ▸ List.mem_cons_self))
              · exact ih (words ▸ List.mem_cons_of_mem first later)
        · rcases List.mem_cons.1 member with rfl | later
          · exact isName
          · exact ih later
      · exact ih member

theorem isNameText_pascalCase (name : String) : IsNameText (pascalCase name).toList := by
  rw [pascalCase, String.toList_ofList]
  exact isNameText_flatMap fun word member =>
    isNameText_capitalize (isNameText_of_mem_splitWords member)

end ODataClient.Text
