import ODataClient.Proofs.Text.Words

/-!
# Casing within ASCII

The words of a text of ASCII characters are made of letters and digits, and every casing changes
each of them into one character: a letter into a letter, and a digit into a digit.
-/

namespace ODataClient.Unicode

variable {c : Char} {text before : List Char} {first others : Char → Char}

/-- ASCII letters are changed into letters, and digits into digits. -/
def KeepsLetters (change : Char → Char) : Prop :=
  ∀ c, c.isAlphanum = true → (change c).isAlphanum = true ∧ (change c).isAlpha = c.isAlpha

/-- Changes the first character of a word in one way and the others in another. -/
def changeWord (first others : Char → Char) : List Char → List Char
  | [] => []
  | c :: rest => first c :: rest.map others

theorem isUpper_iff : c.isUpper = true ↔ 65 ≤ c.toNat ∧ c.toNat ≤ 90 :=
  decide_eq_true_iff.trans Iff.rfl

theorem isLower_iff : c.isLower = true ↔ 97 ≤ c.toNat ∧ c.toNat ≤ 122 :=
  Bool.and_eq_true_iff.trans (and_congr decide_eq_true_iff decide_eq_true_iff)

theorem isAlpha_iff : c.isAlpha = true ↔ c.isUpper = true ∨ c.isLower = true :=
  Bool.or_eq_true_iff

theorem isAlphanum_iff : c.isAlphanum = true ↔ c.isAlpha = true ∨ c.isDigit = true :=
  Bool.or_eq_true_iff

theorem toNat_lt_of_isAlphanum (isLetter : c.isAlphanum = true) : c.toNat < 128 := by
  rw [isAlphanum_iff, isAlpha_iff, isUpper_iff, isLower_iff, Char.isDigit_iff_toNat] at isLetter
  have nine : '9'.toNat = 57 := rfl
  omega

theorem isLower_eq_false_of_outside (outside : Outside 97 122 c.toNat) : c.isLower = false := by
  rw [← Bool.not_eq_true, isLower_iff]
  unfold Outside at outside
  omega

theorem keepsLetters_of_ascii {change : Char → Char}
    (each : ∀ code < 128, (Char.ofNat code).isAlphanum = true →
      (change (Char.ofNat code)).isAlphanum = true ∧
        (change (Char.ofNat code)).isAlpha = (Char.ofNat code).isAlpha) :
    KeepsLetters change := by
  intro c isLetter
  exact of_ascii (P := fun c => c.isAlphanum = true →
    (change c).isAlphanum = true ∧ (change c).isAlpha = c.isAlpha) each
    (toNat_lt_of_isAlphanum isLetter) isLetter

theorem keepsLetters_toUpper : KeepsLetters Char.toUpper :=
  keepsLetters_of_ascii (by decide +kernel)

theorem keepsLetters_toLower : KeepsLetters Char.toLower :=
  keepsLetters_of_ascii (by decide +kernel)

theorem isAlphanum_of_mem_changeWord (firstKeeps : KeepsLetters first)
    (othersKeep : KeepsLetters others) (isWord : ∀ c ∈ text, c.isAlphanum = true) :
    ∀ c ∈ changeWord first others text, c.isAlphanum = true := by
  cases text with
  | nil => simp [changeWord]
  | cons c rest =>
      rw [List.forall_mem_cons] at isWord
      rw [changeWord, List.forall_mem_cons, List.forall_mem_map]
      exact ⟨(firstKeeps c isWord.1).1, fun d member => (othersKeep d (isWord.2 d member)).1⟩

theorem toUpper_of_ascii (ascii : c.toNat < 128) : toUpper c = [c.toUpper] :=
  if_pos ascii

theorem toLower_of_ascii (ascii : c.toNat < 128) : toLower c = [c.toLower] :=
  if_pos ascii

theorem flatMap_eq_map {part : Char → List Char} {change : Char → Char}
    (single : ∀ c, c.toNat < 128 → part c = [change c])
    (isWord : ∀ c ∈ text, c.isAlphanum = true) : text.flatMap part = text.map change := by
  induction text with
  | nil => rfl
  | cons c text ih =>
      rw [List.forall_mem_cons] at isWord
      rw [List.flatMap_cons, single c (toNat_lt_of_isAlphanum isWord.1), ih isWord.2]
      rfl

theorem uppercase_eq (isWord : ∀ c ∈ text, c.isAlphanum = true) :
    uppercase text = changeWord Char.toUpper Char.toUpper text := by
  rw [uppercase, flatMap_eq_map (fun _ => toUpper_of_ascii) isWord]
  cases text <;> rfl

/-- There is no sigma in ASCII for which a word would have to be looked around in. -/
theorem lowercaseAfter_eq (isWord : ∀ c ∈ text, c.isAlphanum = true) :
    lowercaseAfter before text = text.flatMap toLower := by
  induction text generalizing before with
  | nil => rfl
  | cons c text ih =>
      rw [List.forall_mem_cons] at isWord
      have noSigma : c ≠ 'Σ' := by
        rintro rfl
        exact absurd (toNat_lt_of_isAlphanum isWord.1) (by decide)
      rw [lowercaseAfter, if_neg noSigma, ih isWord.2, List.flatMap_cons]

theorem lowercase_eq (isWord : ∀ c ∈ text, c.isAlphanum = true) :
    lowercase text = changeWord Char.toLower Char.toLower text := by
  rw [lowercase, lowercaseAfter_eq isWord, flatMap_eq_map (fun _ => toLower_of_ascii) isWord]
  cases text <;> rfl

end ODataClient.Unicode

namespace ODataClient.Text

open Unicode

variable {source text word rest : List Char} {words : List (List Char)} {first others : Char → Char}

theorem capitalize_eq (isWord : ∀ c ∈ text, c.isAlphanum = true) :
    capitalize text = changeWord Char.toUpper Char.toLower text := by
  cases text with
  | nil => rfl
  | cons c rest =>
      rw [List.forall_mem_cons] at isWord
      rw [capitalize, toUpper_of_ascii (toNat_lt_of_isAlphanum isWord.1),
        flatMap_eq_map (fun _ => toLower_of_ascii) isWord.2]
      rfl

theorem isAlphanumeric_eq (ascii : IsAscii source) :
    ∀ c ∈ source, isAlphanumeric c = c.isAlphanum :=
  fun c member => if_pos (ascii c member)

theorem find?_isAlphanumeric (ascii : IsAscii source) :
    source.find? isAlphanumeric = source.find? Char.isAlphanum := by
  rw [← List.head?_filter, ← List.head?_filter, List.filter_congr (isAlphanumeric_eq ascii)]

theorem isAlphanum_of_mem_splitWords (ascii : IsAscii source) (member : word ∈ splitWords source) :
    ∀ c ∈ word, c.isAlphanum = true := by
  intro c inWord
  have inWords : c ∈ (splitWords source).flatten := List.mem_flatten.2 ⟨word, member, inWord⟩
  rw [flatten_splitWords, List.mem_filter] at inWords
  rw [← isAlphanumeric_eq ascii c inWords.1]
  exact inWords.2

end ODataClient.Text
