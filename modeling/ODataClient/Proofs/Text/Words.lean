import ODataClient.Proofs.Text.Casing

/-!
# Words of a text

The words of a text hold its letters and numbers in their order. A text can be cut between two
words: the parts have the words of the whole, provided that the second does not begin with a small
letter, for which the first would have been read ahead.
-/

namespace ODataClient.Text

open Unicode

variable {c following : Char} {text first second rest : List Char} {words others : List (List Char)}

theorem flatten_extendFirst : (extendFirst c words).flatten = c :: words.flatten := by
  cases words <;> rfl

theorem extendFirst_append (present : words ≠ []) :
    extendFirst c (words ++ others) = extendFirst c words ++ others := by
  cases words with
  | nil => contradiction
  | cons word words => rfl

theorem flatten_splitWords (text : List Char) :
    (splitWords text).flatten = text.filter isAlphanumeric := by
  induction text with
  | nil => rfl
  | cons c text ih =>
      rw [splitWords, List.filter_cons]
      split
      · split
        · rw [flatten_extendFirst, ih]
        · rw [List.flatten_cons, ih]
          rfl
      · exact ih

/-- The first word begins with the first letter or number of the text. -/
theorem splitWords_eq_cons {word : List Char} (split : splitWords text = word :: words) :
    ∃ c rest, word = c :: rest ∧ text.find? isAlphanumeric = some c := by
  have present : word ≠ [] := ne_nil_of_mem_splitWords (split ▸ List.mem_cons_self)
  cases word with
  | nil => contradiction
  | cons c rest =>
      refine ⟨c, rest, rfl, ?_⟩
      rw [← List.head?_filter, ← flatten_splitWords, split]
      rfl

theorem splitWords_eq_nil (split : splitWords text = []) : text.find? isAlphanumeric = none := by
  rw [← List.head?_filter, ← flatten_splitWords, split]
  rfl

theorem splitWords_cons_ne_nil (isLetter : isAlphanumeric c = true) :
    splitWords (c :: rest) ≠ [] := by
  intro none
  have held := flatten_splitWords (c :: rest)
  rw [none, List.filter_cons_of_pos isLetter] at held
  contradiction

/-- Whether a word goes on past `following` does not hang on what is put behind the text, unless
that begins with a small letter. -/
theorem continuesInto_append (quiet : second.head?.any isLowercase = false) :
    continuesInto c (following :: rest ++ second) = continuesInto c (following :: rest) := by
  cases rest with
  | nil => simp [continuesInto, beginsWord, quiet]
  | cons next rest => rfl

/-- The words of a text that is cut where the first part's last word ends are those of both parts:
by induction on the first part, of which each character but the last sees what it saw before. -/
theorem splitWords_append
    (ends : ∀ last ∈ first.getLast?, isAlphanumeric last = true →
      continuesInto last second = false)
    (quiet : second.head?.any isLowercase = false) :
    splitWords (first ++ second) = splitWords first ++ splitWords second := by
  induction first with
  | nil => rfl
  | cons c first ih =>
      cases first with
      | nil =>
          by_cases isLetter : isAlphanumeric c = true
          · have stops : continuesInto c second = false := ends c rfl isLetter
            have alone : continuesInto c [] = false := rfl
            simp [splitWords, isLetter, stops, alone]
          · simp [splitWords, isLetter]
      | cons following rest =>
          have tail := ih fun last isLast => ends last (by simpa using isLast)
          rw [List.cons_append, splitWords, continuesInto_append quiet, tail]
          conv_rhs => rw [splitWords]
          split
          · split
            · next goesOn =>
              simp only [continuesInto, Bool.and_eq_true] at goesOn
              exact extendFirst_append (splitWords_cons_ne_nil goesOn.1)
            · rfl
          · rfl

/-- Whether all characters of a text are of ASCII. -/
def IsAscii (text : List Char) : Prop := ∀ c ∈ text, c.toNat < 128

instance : Decidable (IsAscii text) := List.decidableBAll _ text

/-- What holds of the characters of some texts and of those between them holds of all that they are
joined to. -/
theorem forall_mem_intercalate {P : Char → Prop} {separator : List Char}
    {texts : List (List Char)} (between : ∀ c ∈ separator, P c)
    (each : ∀ text ∈ texts, ∀ c ∈ text, P c) : ∀ c ∈ separator.intercalate texts, P c := by
  induction texts with
  | nil => simp
  | cons text texts ih =>
      rw [List.forall_mem_cons] at each
      cases texts with
      | nil =>
          rw [List.intercalate_singleton]
          exact each.1
      | cons next texts =>
          rw [List.intercalate_cons_cons, List.forall_mem_append, List.forall_mem_append]
          exact ⟨⟨each.1, between⟩, ih each.2⟩

end ODataClient.Text
