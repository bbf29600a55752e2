import ODataClient.Proofs.Text.Ascii

/-!
# Where words break

Two letters or numbers that stand side by side in a text are in one word unless their case breaks
it. Anything else between two parts of a text breaks it for good: the words on either side do not
hang on the other, as a small letter, which alone is looked out for, is a letter.
-/

namespace ODataClient.Unicode

/-- Whether a run without gaps holds another one. -/
def Run.covers (cover run : Run) : Bool :=
  cover.step == 1 && decide (cover.first ≤ run.first) && decide (run.last ≤ cover.last)

/-- Goes on to the first of the runs that covers another one. -/
def dropUncovering (covers : List Run) (run : Run) : List Run :=
  covers.dropWhile fun cover => !cover.covers run

variable {covers runs : List Run} {c : Char}

theorem foldl_dropUncovering_nil : runs.foldl dropUncovering [] = [] := by
  induction runs with
  | nil => rfl
  | cons run runs ih => exact ih

/-- The runs of two tables in order are compared in one pass: by induction on the runs that are to
be covered, of which each is covered by the first run that is left when it has been passed. -/
theorem exists_covers_of_foldl (left : runs.foldl dropUncovering covers ≠ []) :
    ∀ run ∈ runs, ∃ cover ∈ covers, cover.covers run = true := by
  induction runs generalizing covers with
  | nil => simp
  | cons run runs ih =>
      rw [List.foldl_cons] at left
      have kept : dropUncovering covers run ⊆ covers := (List.dropWhile_suffix _).subset
      rw [List.forall_mem_cons]
      constructor
      · cases rest : dropUncovering covers run with
        | nil =>
            rw [rest, foldl_dropUncovering_nil] at left
            contradiction
        | cons cover others =>
            have first := List.head?_dropWhile_not (fun cover => !cover.covers run) covers
            rw [← dropUncovering, rest] at first
            exact ⟨cover, kept (rest ▸ List.mem_cons_self), by simpa using first⟩
      · intro other member
        obtain ⟨cover, isLeft, holds⟩ := ih left other member
        exact ⟨cover, kept isLeft, holds⟩

/-- Every run of small letters lies within a run of letters and numbers. -/
theorem exists_covers_of_mem_lowercaseRuns :
    ∀ run ∈ lowercaseRuns, ∃ cover ∈ alphanumericRuns, cover.covers run = true := by
  apply exists_covers_of_foldl
  rw [← List.isEmpty_eq_false_iff]
  decide +kernel

theorem isAlphanumeric_of_isLowercase (small : isLowercase c = true) :
    isAlphanumeric c = true := by
  unfold isLowercase at small
  unfold isAlphanumeric
  split at small
  · next ascii =>
    rw [if_pos ascii]
    exact isAlphanum_iff.2 (.inl (isAlpha_iff.2 (.inr small)))
  · next beyond =>
    rw [if_neg beyond]
    obtain ⟨run, isRun, within⟩ := List.any_eq_true.1 small
    obtain ⟨cover, isCover, holds⟩ := exists_covers_of_mem_lowercaseRuns run isRun
    simp only [Run.contains, Bool.and_eq_true, decide_eq_true_eq] at within
    simp only [Run.covers, Bool.and_eq_true, decide_eq_true_eq, beq_iff_eq] at holds
    obtain ⟨⟨step, first⟩, last⟩ := holds
    refine List.any_eq_true.2 ⟨cover, isCover, ?_⟩
    simp only [Run.contains, step, Nat.mod_one, Bool.and_eq_true, decide_eq_true_eq]
    exact ⟨⟨by omega, by omega⟩, rfl⟩

end ODataClient.Unicode

namespace ODataClient.Text

open Unicode

variable {p c : Char} {parts : List (List Char)} {after : List Char} {position : Nat}

/-- Which of some words holds the character at a position of the text that they make. -/
def wordAt? : List (List Char) → Nat → Option Nat
  | [], _ => none
  | word :: words, position =>
    if position < word.length then some 0
    else (wordAt? words (position - word.length)).map (· + 1)

theorem wordAt?_extendFirst (present : parts ≠ []) :
    wordAt? (extendFirst c parts) (position + 1) = wordAt? parts position := by
  cases parts with
  | nil => contradiction
  | cons word parts => simp [extendFirst, wordAt?]

theorem wordAt?_singleton_cons :
    wordAt? ([c] :: parts) (position + 1) = (wordAt? parts position).map (· + 1) := by
  simp [wordAt?]

/-- Neighbours are in one word exactly if it goes on from one to the other: by induction on what
stands before them, of which each letter moves both by one place, and by one word if it is one. -/
theorem exists_wordAt? (isFirst : isAlphanumeric p = true) (isSecond : isAlphanumeric c = true)
    (before after : List Char) :
    ∃ i j, wordAt? (splitWords (before ++ p :: c :: after))
        (before.filter isAlphanumeric).length = some i ∧
      wordAt? (splitWords (before ++ p :: c :: after))
        ((before.filter isAlphanumeric).length + 1) = some j ∧
      (i = j ↔ continuesInto p (c :: after) = true) := by
  induction before with
  | nil =>
      rw [List.nil_append, splitWords, if_pos isFirst]
      cases rest : splitWords (c :: after) with
      | nil => exact absurd rest (splitWords_cons_ne_nil isSecond)
      | cons word words =>
          have present : 0 < word.length := List.length_pos_iff.2
            (ne_nil_of_mem_splitWords (rest ▸ List.mem_cons_self))
          split
          · next goesOn => exact ⟨0, 0, by simp [extendFirst, wordAt?, present, goesOn]⟩
          · next breaks => exact ⟨0, 1, by simp [wordAt?, present, breaks]⟩
  | cons b before ih =>
      obtain ⟨i, j, atFirst, atSecond, same⟩ := ih
      rw [List.cons_append, splitWords, List.filter_cons]
      split
      · have present : splitWords (before ++ p :: c :: after) ≠ [] := by
          intro none
          rw [none] at atFirst
          contradiction
        rw [List.length_cons]
        split
        · rw [wordAt?_extendFirst present, wordAt?_extendFirst present]
          exact ⟨i, j, atFirst, atSecond, same⟩
        · rw [wordAt?_singleton_cons, wordAt?_singleton_cons, atFirst, atSecond]
          exact ⟨i + 1, j + 1, rfl, rfl, by rw [Nat.add_right_cancel_iff, same]⟩
      · exact ⟨i, j, atFirst, atSecond, same⟩

/-- Whether case breaks a word between two characters: a capital begins another one behind a small
letter or a digit, and behind a capital if a small letter follows. -/
def BreaksWord (p c : Char) (next : Option Char) : Prop :=
  isUppercase c = true ∧
    (isLowercase p = true ∨ p.isDigit = true ∨
      isUppercase p = true ∧ ∃ follower ∈ next, isLowercase follower = true)

theorem continuesInto_eq_false_iff (isLetter : isAlphanumeric c = true) :
    continuesInto p (c :: after) = false ↔ BreaksWord p c after.head? := by
  have stops : continuesInto p (c :: after) = false ↔ beginsWord p c after.head? = true := by
    simp [continuesInto, isLetter]
  rw [stops, beginsWord, BreaksWord]
  simp only [Bool.and_eq_true, Bool.or_eq_true, or_assoc, Option.any_eq_true, Option.mem_def]

/-- Words of a text: none is empty, together they are the letters and numbers of the text, and two
of these that stand side by side are in different words exactly where case breaks a word. -/
structure AreWordsOf (words : List (List Char)) (text : List Char) : Prop where
  nonempty : ∀ word ∈ words, word ≠ []
  joined : words.flatten = text.filter isAlphanumeric
  broken : ∀ before p c after, text = before ++ p :: c :: after →
    isAlphanumeric p = true → isAlphanumeric c = true →
      ∃ i j, wordAt? words (before.filter isAlphanumeric).length = some i ∧
        wordAt? words ((before.filter isAlphanumeric).length + 1) = some j ∧
        (i ≠ j ↔ BreaksWord p c after.head?)

theorem areWordsOf_splitWords (text : List Char) : AreWordsOf (splitWords text) text where
  nonempty _ member := ne_nil_of_mem_splitWords member
  joined := flatten_splitWords text
  broken := by
    rintro before p c after rfl isFirst isSecond
    obtain ⟨i, j, atFirst, atSecond, same⟩ := exists_wordAt? isFirst isSecond before after
    refine ⟨i, j, atFirst, atSecond, ?_⟩
    rw [← continuesInto_eq_false_iff isSecond, ne_eq, same, Bool.not_eq_true]

/-- What is neither a letter nor a number separates the words before it from those behind it. -/
theorem splitWords_append_separator {separator : Char}
    (separates : isAlphanumeric separator = false) (first second : List Char) :
    splitWords (first ++ separator :: second) = splitWords first ++ splitWords second := by
  have quiet : isLowercase separator = false := by
    rw [← Bool.not_eq_true]
    intro small
    exact Bool.false_ne_true (separates.symm.trans (isAlphanumeric_of_isLowercase small))
  have stops (last : Char) : continuesInto last (separator :: second) = false := by
    simp [continuesInto, separates]
  rw [splitWords_append (fun last _ _ => stops last) (by simp [quiet]), splitWords,
    if_neg (by simp [separates])]

theorem words_settle (name first second : String) {separator : Char}
    (separates : isAlphanumeric separator = false) :
    AreWordsOf ((words name).map String.toList) name.toList ∧
      words (first ++ String.singleton separator ++ second) = words first ++ words second := by
  have whole : (words name).map String.toList = splitWords name.toList := by
    simp [words, Function.comp_def]
  have joined : (first ++ String.singleton separator ++ second).toList =
      first.toList ++ separator :: second.toList := by
    simp
  rw [whole, words, joined, splitWords_append_separator separates, List.map_append]
  exact ⟨areWordsOf_splitWords name.toList, rfl⟩

/-- Neither an acronym nor a digit at the end of a word hides where the next one begins. -/
example : words "HTTPServer2Go" = ["HTTP", "Server2", "Go"] := by decide +kernel

/-- Small letters behind an underscore do not claim the capital before it. -/
theorem words_settle_server :
    isAlphanumeric '_' = false ∧
      AreWordsOf ((words "HTTPServer2Go").map String.toList) "HTTPServer2Go".toList ∧
      words ("HTTP" ++ String.singleton '_' ++ "server") = words "HTTP" ++ words "server" := by
  have separates : isAlphanumeric '_' = false := by decide
  exact ⟨separates, words_settle "HTTPServer2Go" "HTTP" "server" separates⟩

end ODataClient.Text
