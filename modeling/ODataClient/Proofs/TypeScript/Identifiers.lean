import ODataClient.Proofs.Name.Runs
import ODataClient.Proofs.Text.Ascii
import ODataClient.Proofs.TypeScript.Spelling

/-!
# Identifiers

A name that is handed out is spelled after the letters and digits of its source, without the
underscores around them. So it is an identifier if the first of these is a letter. Where it is a
digit, the name begins with that digit; where there is none, nothing is left for the first construct
and only the numbers behind an underscore for those that follow. Reserved words are never handed
out.
-/

namespace ODataClient.TypeScript

open Text Unicode

variable {source text word rest : List Char} {words : List (List Char)} {first others : Char → Char}

/-- Whether an identifier may begin with the character. -/
def isIdentifierStart (c : Char) : Bool := c.isAlpha || c == '_' || c == '$'

/-- Whether an identifier may go on with the character. -/
def isIdentifierPart (c : Char) : Bool := isIdentifierStart c || c.isDigit

/-- Whether a text is an identifier, within ASCII. -/
def isIdentifier (name : String) : Bool :=
  match name.toList with
  | [] => false
  | first :: rest => isIdentifierStart first && rest.all isIdentifierPart

/-- Whether a text is a simple identifier, as schemas name their constructs: a letter or underscore
with letters, digits and underscores behind it. -/
def isSimpleIdentifier (name : String) : Bool :=
  match name.toList with
  | [] => false
  | first :: rest =>
    (first.isAlpha || first == '_') && rest.all fun c => c.isAlphanum || c == '_'

/-- Whether an identifier is handed out for a source: its first letter or digit is a letter, or it
has none and a number has been put behind nothing. -/
def LeadsToIdentifier (source name : String) : Prop :=
  match source.toList.find? Char.isAlphanum with
  | some c => c.isAlpha = true
  | none => name ≠ ""

/-- A text that is spelled after the letters and digits of a source: it begins with a letter if
these do, and is empty if there are none. -/
structure IsSpelledAfter (source text : List Char) : Prop where
  parts : ∀ c ∈ text, isIdentifierPart c = true
  head : text.head?.map isIdentifierStart = (source.find? Char.isAlphanum).map Char.isAlpha

theorem isIdentifierPart_of_isAlphanum {c : Char} (isLetter : c.isAlphanum = true) :
    isIdentifierPart c = true := by
  rcases isAlphanum_iff.1 isLetter with letter | digit
  · simp [isIdentifierPart, isIdentifierStart, letter]
  · simp [isIdentifierPart, digit]

theorem isIdentifierStart_of_isAlphanum {c : Char} (isLetter : c.isAlphanum = true) :
    isIdentifierStart c = c.isAlpha := by
  have notUnderscore : c ≠ '_' := by
    rintro rfl
    contradiction
  have notDollar : c ≠ '$' := by
    rintro rfl
    contradiction
  simp [isIdentifierStart, beq_false_of_ne notUnderscore, beq_false_of_ne notDollar]

section Cases

variable (ascii : IsAscii source)

include ascii

theorem isIdentifierPart_of_mem_changeWord (firstKeeps : KeepsLetters first)
    (othersKeep : KeepsLetters others) (member : word ∈ splitWords source) :
    ∀ c ∈ changeWord first others word, isIdentifierPart c = true := by
  intro c inWord
  apply isIdentifierPart_of_isAlphanum
  exact isAlphanum_of_mem_changeWord firstKeeps othersKeep
    (isAlphanum_of_mem_splitWords ascii member) c inWord

theorem isIdentifierPart_of_mem_flatMap (within : ∀ word ∈ words, word ∈ splitWords source) :
    ∀ c ∈ words.flatMap capitalize, isIdentifierPart c = true := by
  intro c member
  rcases List.mem_flatMap.1 member with ⟨word, isWord, inWord⟩
  rw [capitalize_eq (isAlphanum_of_mem_splitWords ascii (within word isWord))] at inWord
  exact isIdentifierPart_of_mem_changeWord ascii keepsLetters_toUpper keepsLetters_toLower
    (within word isWord) c inWord

theorem isSpelledAfter_nil (split : splitWords source = []) : IsSpelledAfter source [] := by
  constructor
  · simp
  · rw [← find?_isAlphanumeric ascii, splitWords_eq_nil split]
    rfl

/-- Whatever follows the first word, a text begins as that word does. -/
theorem isSpelledAfter_append (firstKeeps : KeepsLetters first)
    (othersKeep : KeepsLetters others) (split : splitWords source = word :: words)
    (parts : ∀ c ∈ rest, isIdentifierPart c = true) :
    IsSpelledAfter source (changeWord first others word ++ rest) := by
  have member : word ∈ splitWords source := split ▸ List.mem_cons_self
  constructor
  · rw [List.forall_mem_append]
    exact ⟨isIdentifierPart_of_mem_changeWord ascii firstKeeps othersKeep member, parts⟩
  · have isWord := isAlphanum_of_mem_splitWords ascii member
    rcases splitWords_eq_cons split with ⟨c, following, rfl, found⟩
    rw [find?_isAlphanumeric ascii] at found
    rcases firstKeeps c (isWord c List.mem_cons_self) with ⟨isLetter, isAlpha⟩
    rw [found]
    simp [changeWord, isIdentifierStart_of_isAlphanum isLetter, isAlpha]

theorem isSpelledAfter_pascal :
    IsSpelledAfter source ((splitWords source).flatMap capitalize) := by
  cases split : splitWords source with
  | nil => exact isSpelledAfter_nil ascii split
  | cons word words =>
      have isWord := isAlphanum_of_mem_splitWords ascii (split ▸ List.mem_cons_self)
      rw [List.flatMap_cons, capitalize_eq isWord]
      apply isSpelledAfter_append ascii keepsLetters_toUpper keepsLetters_toLower split
      apply isIdentifierPart_of_mem_flatMap ascii
      intro other member
      exact split ▸ List.mem_cons_of_mem word member

theorem isSpelledAfter_camel (split : splitWords source = word :: words) :
    IsSpelledAfter source (lowercase word ++ words.flatMap capitalize) := by
  have isWord := isAlphanum_of_mem_splitWords ascii (split ▸ List.mem_cons_self)
  rw [lowercase_eq isWord]
  apply isSpelledAfter_append ascii keepsLetters_toLower keepsLetters_toLower split
  apply isIdentifierPart_of_mem_flatMap ascii
  intro other member
  exact split ▸ List.mem_cons_of_mem word member

theorem isSpelledAfter_snake :
    IsSpelledAfter source (['_'].intercalate ((splitWords source).map uppercase)) := by
  have each : ∀ text ∈ (splitWords source).map uppercase,
      ∀ c ∈ text, isIdentifierPart c = true := by
    intro text member
    rcases List.mem_map.1 member with ⟨word, isWord, rfl⟩
    rw [uppercase_eq (isAlphanum_of_mem_splitWords ascii isWord)]
    exact isIdentifierPart_of_mem_changeWord ascii keepsLetters_toUpper keepsLetters_toUpper isWord
  cases split : splitWords source with
  | nil => exact isSpelledAfter_nil ascii split
  | cons word words =>
      have isWord := isAlphanum_of_mem_splitWords ascii (split ▸ List.mem_cons_self)
      have begins : IsSpelledAfter source (changeWord Char.toUpper Char.toUpper word ++ []) :=
        isSpelledAfter_append ascii keepsLetters_toUpper keepsLetters_toUpper split (by simp)
      rw [← uppercase_eq isWord, List.append_nil] at begins
      cases words with
      | nil =>
          rw [List.map_singleton, List.intercalate_singleton]
          exact begins
      | cons next words =>
          rw [split] at each
          constructor
          · exact forall_mem_intercalate (List.forall_mem_singleton.2 (by decide)) each
          · have present : uppercase word ≠ [] := by
              rw [uppercase_eq isWord]
              rcases splitWords_eq_cons split with ⟨c, following, rfl, -⟩
              exact List.cons_ne_nil _ _
            rw [← begins.head, List.map_cons, List.map_cons, List.intercalate_cons_cons,
              List.append_assoc, List.head?_append_of_ne_nil _ present]

end Cases

section Spelling

variable {source candidate name : String} {kind : NameKind}

theorem isSpelledAfter_recase (ascii : IsAscii source.toList) (ordinary : kind ≠ .directory) :
    IsSpelledAfter source.toList (naming.recase source kind).toList := by
  have pascal : IsSpelledAfter source.toList (pascalCase source).toList := by
    rw [pascalCase, String.toList_ofList]
    exact isSpelledAfter_pascal ascii
  have camel : IsSpelledAfter source.toList (camelCase source).toList := by
    rw [camelCase]
    split
    · next split => exact isSpelledAfter_nil ascii split
    · next split =>
      rw [String.toList_ofList]
      exact isSpelledAfter_camel ascii split
  cases kind with
  | type => exact pascal
  | staticMember =>
      change IsSpelledAfter source.toList (upperSnakeCase source).toList
      rw [upperSnakeCase, String.toList_intercalate, List.map_map]
      have texts : String.toList ∘ (fun word => String.ofList (uppercase word)) = uppercase := by
        funext word
        exact String.toList_ofList
      rw [texts]
      exact isSpelledAfter_snake ascii
  | directory => contradiction
  | instanceMember => exact camel
  | factory => exact camel
  | function => exact camel
  | parameter => exact camel

/-- Reserved words are made of small letters. -/
theorem isLower_of_isReserved (isReserved : naming.isReserved name = true) :
    name.toList ≠ [] ∧ ∀ c ∈ name.toList, c.isLower = true := by
  have each : ∀ word ∈ reservedWords,
      word.toList ≠ [] ∧ word.toList.all Char.isLower = true := by
    decide +kernel
  rw [← List.all_eq_true]
  exact each name (List.contains_iff_mem.1 isReserved)

theorem isReserved_eq_false {c : Char} (other : c.isLower = false) (member : c ∈ name.toList) :
    naming.isReserved name = false := by
  rw [← Bool.not_eq_true]
  intro isReserved
  rw [(isLower_of_isReserved isReserved).2 c member] at other
  contradiction

theorem isSpelledAfter_cons {first : Char} (start : isIdentifierStart first = true)
    (parts : ∀ c ∈ rest, isIdentifierPart c = true)
    (letter : (text.find? Char.isAlphanum).map Char.isAlpha = some true) :
    IsSpelledAfter text (first :: rest) := by
  constructor
  · rw [List.forall_mem_cons]
    exact ⟨by simp [isIdentifierPart, start], parts⟩
  · rw [letter, List.head?_cons, Option.map_some, start]

/-- A reserved word in Pascal case is no longer made of small letters. -/
theorem exists_capital_of_isReserved (isReserved : naming.isReserved name = true) :
    (∀ c ∈ (pascalCase name).toList, isIdentifierPart c = true) ∧
      ∃ c ∈ (pascalCase name).toList, c.isLower = false := by
  rcases isLower_of_isReserved isReserved with ⟨present, isLower⟩
  have isLetter : ∀ c ∈ name.toList, c.isAlphanum = true :=
    fun c member => isAlphanum_iff.2 (.inl (isAlpha_iff.2 (.inr (isLower c member))))
  have ascii : IsAscii name.toList := fun c member => toNat_lt_of_isAlphanum (isLetter c member)
  have spelled : IsSpelledAfter name.toList (pascalCase name).toList := by
    rw [pascalCase, String.toList_ofList]
    exact isSpelledAfter_pascal ascii
  refine ⟨spelled.parts, ?_⟩
  have small := beginsNotSmall_pascalCase name
  have head := spelled.head
  cases pascal : (pascalCase name).toList with
  | nil =>
      cases letters : name.toList with
      | nil => contradiction
      | cons c others =>
          rw [letters, List.forall_mem_cons] at isLetter
          simp [pascal, letters, List.find?_cons_of_pos isLetter.1] at head
  | cons c others =>
      rw [pascal] at small
      exact ⟨c, List.mem_cons_self, isLower_eq_false_of_outside (beginsOutside_cons.1 small)⟩

theorem isSpelledAfter_escapeReserved {word : String} (isReserved : naming.isReserved word = true)
    (spelled : IsSpelledAfter text word.toList) :
    IsSpelledAfter text (naming.escapeReserved word kind).toList ∧
      naming.isReserved (naming.escapeReserved word kind) = false := by
  have letter : (text.find? Char.isAlphanum).map Char.isAlpha = some true := by
    rcases isLower_of_isReserved isReserved with ⟨present, isLower⟩
    rw [← spelled.head]
    cases letters : word.toList with
    | nil => contradiction
    | cons c others =>
        have small := isLower c (letters ▸ List.mem_cons_self)
        simp [isIdentifierStart, isAlpha_iff.2 (.inr small)]
  rcases exists_capital_of_isReserved isReserved with ⟨parts, capital, member, isCapital⟩
  have lettered : ∀ first : Char, first.isAlpha = true →
      IsSpelledAfter text (String.singleton first ++ pascalCase word).toList ∧
        naming.isReserved (String.singleton first ++ pascalCase word) = false := by
    intro first isAlpha
    constructor
    · rw [String.toList_append, String.toList_singleton]
      exact isSpelledAfter_cons (by simp [isIdentifierStart, isAlpha]) parts letter
    · apply isReserved_eq_false isCapital
      rw [String.toList_append]
      exact List.mem_append_right _ member
  have underscored : IsSpelledAfter text ("_" ++ word).toList ∧
      naming.isReserved ("_" ++ word) = false := by
    constructor
    · rw [String.toList_append]
      exact isSpelledAfter_cons (by decide) spelled.parts letter
    · apply isReserved_eq_false (c := '_') (by decide)
      simp
  cases kind with
  | function => exact lettered 'f' (by decide)
  | factory => exact lettered 'f' (by decide)
  | parameter => exact lettered 'p' (by decide)
  | type => exact underscored
  | instanceMember => exact underscored
  | staticMember => exact underscored
  | directory => exact underscored

theorem isSpelledAfter_identifier (ascii : IsAscii source.toList) (ordinary : kind ≠ .directory) :
    IsSpelledAfter source.toList (naming.identifier source kind).toList ∧
      naming.isReserved (naming.identifier source kind) = false := by
  have spelled := isSpelledAfter_recase ascii ordinary
  unfold NamingConvention.identifier NamingConvention.escape
  split
  · next isReserved => exact isSpelledAfter_escapeReserved isReserved spelled
  · next isFree => exact ⟨spelled, Bool.eq_false_iff.2 isFree⟩

theorem isIdentifier_iff : isIdentifier name = true ↔
    name.toList.head?.map isIdentifierStart = some true ∧
      ∀ c ∈ name.toList, isIdentifierPart c = true := by
  unfold isIdentifier
  split
  · next none => simp [none]
  · next first rest letters =>
    have part : isIdentifierStart first = true → isIdentifierPart first = true := by
      intro start
      simp [isIdentifierPart, start]
    rw [letters, List.forall_mem_cons, Bool.and_eq_true, List.all_eq_true]
    simp only [List.head?_cons, Option.map_some, Option.some.injEq]
    tauto

/-- What is put behind a candidate changes nothing about how it begins, unless it is empty. -/
theorem leadsToIdentifier_iff (spelled : IsSpelledAfter source.toList candidate.toList)
    (numbered : name.toList = candidate.toList ++ rest)
    (begins : ∀ c ∈ rest.head?, isIdentifierStart c = true) :
    name.toList.head?.map isIdentifierStart = some true ↔ LeadsToIdentifier source name := by
  have head := spelled.head
  unfold LeadsToIdentifier
  cases letters : candidate.toList with
  | nil =>
      rw [letters, List.head?_nil, Option.map_none] at head
      have none : source.toList.find? Char.isAlphanum = none := Option.map_eq_none_iff.1 head.symm
      rw [none, numbered, letters, List.nil_append, ne_eq, ← String.toList_eq_nil_iff, numbered,
        letters]
      cases rest with
      | nil => simp
      | cons c rest => simpa using begins c rfl
  | cons c others =>
      rw [letters, List.head?_cons, Option.map_some] at head
      rcases Option.map_eq_some_iff.1 head.symm with ⟨first, found, same⟩
      rw [found, numbered, letters, List.cons_append, List.head?_cons, Option.map_some, ← same]
      simp

theorem isIdentifier_of_mem_variants (spelled : IsSpelledAfter source.toList candidate.toList)
    (isFree : naming.isReserved candidate = false) (member : name ∈ Name.variants candidate) :
    naming.isReserved name = false ∧ (∀ c ∈ name.toList, isIdentifierPart c = true) ∧
      (isIdentifier name = true ↔ LeadsToIdentifier source name) := by
  have numbers : ∀ ordinal ∈ List.range' 1 Name.ordinalLimit,
      (toString ordinal).toList.all isIdentifierPart = true := by
    decide +kernel
  rw [isIdentifier_iff]
  rcases eq_or_numbered_of_mem_variants member with rfl | ⟨ordinal, isOrdinal, numbered⟩
  · have begins := leadsToIdentifier_iff spelled (List.append_nil _).symm (by simp)
    rw [begins]
    exact ⟨isFree, spelled.parts, and_iff_left spelled.parts⟩
  · have parts : ∀ c ∈ name.toList, isIdentifierPart c = true := by
      rw [numbered, List.forall_mem_append, List.forall_mem_cons]
      exact ⟨spelled.parts, by decide, List.all_eq_true.1 (numbers ordinal isOrdinal)⟩
    have underscore : '_' ∈ name.toList := by simp [numbered]
    rw [leadsToIdentifier_iff spelled numbered (by simp; decide)]
    exact ⟨isReserved_eq_false (by decide) underscore, parts, and_iff_left parts⟩

theorem toNat_lt_of_isWordPart {c : Char} (isWordPart : (c.isAlphanum || c == '_') = true) :
    c.toNat < 128 := by
  rw [Bool.or_eq_true, beq_iff_eq] at isWordPart
  rcases isWordPart with isLetter | rfl
  · exact toNat_lt_of_isAlphanum isLetter
  · decide

theorem isAscii_of_isSimpleIdentifier (simple : isSimpleIdentifier source = true) :
    IsAscii source.toList := by
  unfold isSimpleIdentifier at simple
  split at simple
  · contradiction
  · next first rest letters =>
    rw [Bool.and_eq_true, List.all_eq_true] at simple
    rw [letters, IsAscii, List.forall_mem_cons]
    constructor
    · apply toNat_lt_of_isWordPart
      rw [Bool.or_eq_true] at simple ⊢
      exact simple.1.imp_left fun letter => isAlphanum_iff.2 (.inl letter)
    · intro c member
      exact toNat_lt_of_isWordPart (simple.2 c member)

end Spelling

end ODataClient.TypeScript

namespace ODataClient.Name.Registry

open TypeScript

/-- Whatever a run has asked for, each name that is handed out is no reserved word, and is spelled
after the source of the request that it was first handed out for: it is an identifier if the first
letter or digit of that source is a letter, or if the source has none and the name a number. -/
theorem run_spells_identifiers (service : String) (operations : List Operation)
    (simple : ∀ request, .resolve request ∈ operations → request.slot.kind ≠ .directory →
      request.explicit = none ∧ isSimpleIdentifier request.source = true) :
    let history := (empty service naming).history operations
    ∀ request name, (.resolve request, .named name) ∈ history →
      request.slot.kind ≠ .directory →
        naming.isReserved name = false ∧ (∀ c ∈ name.toList, isIdentifierPart c = true) ∧
          ∃ first, (.resolve first, .named name) ∈ history ∧ first.slot = request.slot ∧
            (isIdentifier name = true ↔ LeadsToIdentifier first.source name) := by
  intro history request name named ordinary
  rcases exists_choose_of_named named with held | ⟨first, earlier, isEntry, same, spelled, chosen⟩
  · simp at held
  · have ordinaryToo : first.slot.kind ≠ .directory := same ▸ ordinary
    rcases simple first (List.of_mem_zip isEntry).1 ordinaryToo with ⟨derived, isSimple⟩
    have member := mem_variants_of_choose derived chosen
    rw [spelled] at member
    rcases isSpelledAfter_identifier (isAscii_of_isSimpleIdentifier isSimple) ordinaryToo with
      ⟨after, isFree⟩
    rcases isIdentifier_of_mem_variants after isFree member with ⟨notReserved, parts, leads⟩
    exact ⟨notReserved, parts, first, isEntry, same, leads⟩

/-- Asked for again with another source, a construct keeps the identifier that it has. -/
theorem run_spells_identifiers_delete :
    let request := Request.ofKey .function "delete" none
    let again := { request with source := "_1" }
    let operations := [Operation.resolve request, .resolve again]
    let history := (empty "API_ORDER_SRV" naming).history operations
    history = [(.resolve request, .named "fDelete"), (.resolve again, .named "fDelete")] ∧
      naming.isReserved "fDelete" = false ∧
      ∃ first, (.resolve first, .named "fDelete") ∈ history ∧ first.slot = again.slot ∧
        (isIdentifier "fDelete" = true ↔ LeadsToIdentifier first.source "fDelete") := by
  intro request again operations history
  have answered : history =
      [(.resolve request, .named "fDelete"), (.resolve again, .named "fDelete")] := by
    decide +kernel
  have simple : ∀ request, .resolve request ∈ operations → request.slot.kind ≠ .directory →
      request.explicit = none ∧ isSimpleIdentifier request.source = true := by
    intro asked member _
    simp only [operations, List.mem_cons, Operation.resolve.injEq, List.not_mem_nil,
      or_false] at member
    rcases member with rfl | rfl <;> decide +kernel
  have member : (.resolve again, .named "fDelete") ∈ history := by simp [answered]
  rcases run_spells_identifiers _ operations simple again "fDelete" member (by decide) with
    ⟨isFree, -, leads⟩
  exact ⟨answered, isFree, leads⟩

/-- Sources that lead to no identifier: nothing of the first but its digit is left, and nothing at
all of the second. -/
theorem exists_named_not_isIdentifier :
    let operations := [
      Operation.resolve (.ofKey .type "_1" none), .resolve (.ofKey .type "_" none)]
    (isSimpleIdentifier "_1" = true ∧ isSimpleIdentifier "_" = true) ∧
      ((empty "S" naming).run operations).1 = [.named "1", .named ""] ∧
      isIdentifier "1" = false ∧ isIdentifier "" = false := by
  decide +kernel

end ODataClient.Name.Registry
