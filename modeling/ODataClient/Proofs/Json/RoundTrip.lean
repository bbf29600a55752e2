import Mathlib.Data.List.Induction
import ODataClient.Json.Parser
import ODataClient.Json.Printer

/-!
# Reading what has been written

A value that is made of texts, arrays and objects only is read back from its text. The scanner and
the machine each go over a text piece by piece, so both parts of the proof follow the printer: a
piece adds tokens to those read before it, and the tokens of a value complete that value whatever
is still open around it.
-/

namespace ODataClient.Json

/-- A value without numbers, truth values and nulls. -/
inductive IsTextual : Json → Prop
  | text (value : String) : IsTextual (.text value)
  | array {elements : List Json} (each : ∀ element ∈ elements, IsTextual element) :
      IsTextual (.array elements)
  | object {members : List (String × Json)} (each : ∀ member ∈ members, IsTextual member.2) :
      IsTextual (.object members)

section Scanning

/-- A text that is cut into the given tokens wherever it stands between others. -/
def Scans (text : String) (read : List Token) : Prop :=
  ∀ tokens, text.toList.foldlM Scanner.step ⟨tokens, .between⟩ =
    some ⟨read.reverse ++ tokens, .between⟩

variable {text other : String} {read more : List Token}

theorem Scans.append (first : Scans text read) (second : Scans other more) :
    Scans (text ++ other) (read ++ more) := by
  intro tokens
  rw [String.toList_append, List.foldlM_append, first, Option.bind_eq_bind, Option.bind_some,
    second, List.reverse_append, List.append_assoc]

theorem Scans.then_nothing (first : Scans text read) (second : Scans other []) :
    Scans (text ++ other) read := by
  simpa using first.append second

theorem scans_blanks (characters : List Char) (blank : ∀ c ∈ characters, isBlank c = true) :
    Scans (String.ofList characters) [] := by
  intro tokens
  rw [String.toList_ofList]
  induction characters with
  | nil => rfl
  | cons c characters ih =>
      have first : Scanner.step ⟨tokens, .between⟩ c = some ⟨tokens, .between⟩ := by
        simp [Scanner.step, scanBetween, blank c List.mem_cons_self]
      rw [List.foldlM_cons, first, Option.bind_eq_bind, Option.bind_some]
      exact ih fun other member => blank other (List.mem_cons_of_mem c member)

theorem scans_lineEnd : Scans "\n" [] :=
  scans_blanks ['\n'] fun _ member => by rw [List.mem_singleton.1 member]; rfl

theorem scans_lineStart (level : Nat) : Scans (lineStart level) [] := by
  refine scans_lineEnd.then_nothing (scans_blanks _ ?_)
  intro c member
  rw [List.eq_of_mem_replicate member]
  rfl

/-- A place of a quoted text that stands for a character. Only control characters are written by
their codes. -/
inductive StandsFor : Place → Char → Prop
  | char (c : Char) : StandsFor (.char c) c
  | code {c : Char} (control : c.toNat < 32) : StandsFor (.code c.toNat) c

/-- The code of a control character is no half of a surrogate pair, whatever comes behind it. -/
theorem textOf_cons {place : Place} {c : Char} (stands : StandsFor place c)
    (places : List Place) : textOf (place :: places) = (textOf places).map (c :: ·) := by
  cases stands with
  | char => rw [textOf]
  | code control =>
      have notHigh : ¬ (0xD800 ≤ c.toNat ∧ c.toNat < 0xDC00) := by omega
      have notLow : ¬ (0xDC00 ≤ c.toNat ∧ c.toNat < 0xE000) := by omega
      have notHalf : ¬ (0xD800 ≤ c.toNat ∧ c.toNat < 0xE000) := by omega
      cases places with
      | nil => simp [textOf, notHalf]
      | cons next places =>
          cases next with
          | char other => simp [textOf, notHalf]
          | code low => rw [textOf, if_neg notHigh, if_neg notLow, Char.ofNat_toNat]

theorem textOf_of_forall₂ {places : List Place} {characters : List Char}
    (stand : List.Forall₂ StandsFor places characters) : textOf places = some characters := by
  induction stand with
  | nil => rfl
  | cons stands _ ih => rw [textOf_cons stands, ih, Option.map_some]

/-- A hexadecimal digit is read as what it was written for. -/
theorem hexDigit?_digitChar {digit : Nat} (isDigit : digit < 16) :
    hexDigit? (Nat.digitChar digit) = some digit := by
  revert digit
  decide

theorem scan_escapeCode {c : Char} (control : c.toNat < 32) (tokens : List Token)
    (places : List Place) :
    (escapeCode c).toList.foldlM Scanner.step ⟨tokens, .inText places⟩ =
      some ⟨tokens, .inText (.code c.toNat :: places)⟩ := by
  have high : hexDigit? (Nat.digitChar (c.toNat / 16)) = some (c.toNat / 16) :=
    hexDigit?_digitChar (by omega)
  have low : hexDigit? (Nat.digitChar (c.toNat % 16)) = some (c.toNat % 16) :=
    hexDigit?_digitChar (by omega)
  have zero : hexDigit? '0' = some 0 := by decide
  have value : ((0 * 16 + 0) * 16 + 0) * 16 + c.toNat / 16 = c.toNat / 16 := by omega
  have whole : c.toNat / 16 * 16 + c.toNat % 16 = c.toNat := by omega
  simp [escapeCode, Scanner.step, high, low, zero, whole]

/-- What a character is written as in a quoted text is read as a place that stands for it. -/
theorem exists_scan_escapeChar (c : Char) : ∃ place, StandsFor place c ∧
    ∀ tokens places, (escapeChar c).toList.foldlM Scanner.step ⟨tokens, .inText places⟩ =
      some ⟨tokens, .inText (place :: places)⟩ := by
  unfold escapeChar
  split_ifs with quote backslash newline carriageReturn tab backspace formFeed control
  · exact ⟨.char c, .char c, fun _ _ => by subst quote; rfl⟩
  · exact ⟨.char c, .char c, fun _ _ => by subst backslash; rfl⟩
  · exact ⟨.char c, .char c, fun _ _ => by subst newline; rfl⟩
  · exact ⟨.char c, .char c, fun _ _ => by subst carriageReturn; rfl⟩
  · exact ⟨.char c, .char c, fun _ _ => by subst tab; rfl⟩
  · exact ⟨.char c, .char c, fun _ _ => by subst backspace; rfl⟩
  · exact ⟨.char c, .char c, fun _ _ => by subst formFeed; rfl⟩
  · exact ⟨.code c.toNat, .code control, scan_escapeCode control⟩
  · refine ⟨.char c, .char c, fun tokens places => ?_⟩
    simp [Scanner.step, quote, backslash, control]

theorem toList_foldl_escapeChar (characters : List Char) (written : String) :
    (characters.foldl (fun written c => written ++ escapeChar c) written).toList =
      written.toList ++ characters.flatMap fun c => (escapeChar c).toList := by
  induction characters generalizing written with
  | nil => simp
  | cons c characters ih =>
      rw [List.foldl_cons, ih, String.toList_append, List.flatMap_cons, List.append_assoc]

theorem exists_scan_escaped (characters : List Char) : ∃ places,
    List.Forall₂ StandsFor places characters ∧
      ∀ tokens earlier, (characters.flatMap fun c => (escapeChar c).toList).foldlM Scanner.step
        ⟨tokens, .inText earlier⟩ = some ⟨tokens, .inText (places.reverse ++ earlier)⟩ := by
  induction characters with
  | nil => exact ⟨[], .nil, fun _ _ => rfl⟩
  | cons c characters ih =>
      obtain ⟨place, stands, scanned⟩ := exists_scan_escapeChar c
      obtain ⟨places, stand, rest⟩ := ih
      refine ⟨place :: places, .cons stands stand, fun tokens earlier => ?_⟩
      rw [List.flatMap_cons, List.foldlM_append, scanned, Option.bind_eq_bind, Option.bind_some,
        rest, List.reverse_cons, List.append_assoc, List.singleton_append]

/-- A quoted text is read as the text that it was made of. -/
theorem scans_quote (value : String) : Scans (quote value) [.text value] := by
  intro tokens
  obtain ⟨places, stand, scanned⟩ := exists_scan_escaped value.toList
  have body : (quote value).toList =
      '"' :: ((value.toList.flatMap fun c => (escapeChar c).toList) ++ ['"']) := by
    rw [quote, String.toList_append, String.toList_append, toList_foldl_escapeChar]
    rfl
  have opened : Scanner.step ⟨tokens, .between⟩ '"' = some ⟨tokens, .inText []⟩ := rfl
  have closed : Scanner.step ⟨tokens, .inText (places.reverse ++ [])⟩ '"' =
      some ⟨.text value :: tokens, .between⟩ := by
    simp [Scanner.step, Token.ofPlaces, textOf_of_forall₂ stand]
  simp only [body, List.foldlM_cons, List.foldlM_append, List.foldlM_nil, Option.bind_eq_bind,
    Option.bind_some, opened, scanned, closed]
  rfl

end Scanning

section Building

/-- Tokens that make a value, whatever is still open around it. -/
def Builds (read : List Token) (value : Json) : Prop :=
  ∀ stack, read.foldlM Machine.step (.awaitValue stack) = some (.complete value stack)

variable {read more : List Token} {value : Json} {stack : List Frame}

/-- No value begins with a bracket that closes, so the first element of an array that has just been
opened is read like any other. -/
theorem Builds.first_element (builds : Builds read value) (stack : List Frame) :
    read.foldlM Machine.step (.arrayOpened stack) =
      some (.complete value (.array [] :: stack)) := by
  have whole := builds (.array [] :: stack)
  cases read with
  | nil => cases whole
  | cons token read =>
      rw [List.foldlM_cons] at whole ⊢
      cases token with
      | closeBracket => cases whole
      | _ => exact whole

theorem ofMembers_some (members : List (String × Json)) :
    ofMembers (members.map fun member => (some member.1, member.2)) = .object members := by
  have known : (members.map fun member => (some member.1, member.2)).mapM
      (fun entry : Option String × Json => entry.1.map fun key => (key, entry.2)) =
        some members := by
    induction members with
    | nil => rfl
    | cons member members ih => simp [List.mapM_cons, ih]
  rw [ofMembers]
  split
  · next found read => exact congrArg object (Option.some.inj (read.symm.trans known))
  · next read => cases read.symm.trans known

end Building

section Writing

/-- A text that is cut into tokens that make the given value. -/
def IsWriting (text : String) (value : Json) : Prop :=
  ∃ read, Scans text read ∧ Builds read value

variable {level : Nat}

theorem isWriting_quote (value : String) : IsWriting (quote value) (.text value) :=
  ⟨[.text value], scans_quote value, fun _ => rfl⟩

theorem scans_comma_line (level : Nat) : Scans ("," ++ lineStart level) [.comma] :=
  Scans.then_nothing (fun _ => rfl) (scans_lineStart level)

/-- The elements behind the first complete an array of which some are read already. -/
theorem exists_scan_elements {others : List Json}
    (each : ∀ element ∈ others, IsWriting (renderAt level element) element) :
    ∃ read, Scans (renderElements level others) read ∧ ∀ value earlier stack,
      (read ++ [Token.closeBracket]).foldlM Machine.step
          (.complete value (.array earlier :: stack)) =
        some (.complete (.array (earlier.reverse ++ value :: others)) stack) := by
  induction others with
  | nil =>
      refine ⟨[], fun _ => rfl, fun value earlier stack => ?_⟩
      simp [Machine.step, Machine.afterValue]
  | cons element others ih =>
      obtain ⟨first, scans, builds⟩ := each element List.mem_cons_self
      obtain ⟨rest, scansRest, completes⟩ :=
        ih fun other member => each other (List.mem_cons_of_mem element member)
      refine ⟨.comma :: first ++ rest, ?_, fun value earlier stack => ?_⟩
      · exact ((scans_comma_line level).append scans).append scansRest
      · have next : Machine.step (.complete value (.array earlier :: stack)) .comma =
            some (.awaitValue (.array (value :: earlier) :: stack)) := rfl
        simp only [List.cons_append, List.append_assoc, List.foldlM_cons, next,
          Option.bind_eq_bind, Option.bind_some]
        rw [List.foldlM_append, builds, Option.bind_eq_bind, Option.bind_some, completes,
          List.reverse_cons, List.append_assoc, List.singleton_append]

/-- The members of an object that is still open, as the machine holds them. -/
def held (members : List (String × Json)) : Members :=
  (members.map fun member => (some member.1, member.2)).reverse

theorem held_concat (members : List (String × Json)) (key : String) (value : Json) :
    held (members ++ [(key, value)]) = (some key, value) :: held members := by
  simp [held]

/-- The members behind the first complete an object of which some are read already. -/
theorem exists_scan_members {others : List (String × Json)}
    (each : ∀ member ∈ others, IsWriting (renderAt level member.2) member.2) :
    ∃ read, Scans (renderMembers level others) read ∧ ∀ key value earlier stack,
      (read ++ [Token.closeBrace]).foldlM Machine.step
          (.complete value (.object (held earlier) (some key) :: stack)) =
        some (.complete (.object (earlier ++ (key, value) :: others)) stack) := by
  induction others with
  | nil =>
      refine ⟨[], fun _ => rfl, fun key value earlier stack => ?_⟩
      have members : ofMembers ((some key, value) :: held earlier).reverse =
          .object (earlier ++ [(key, value)]) := by
        rw [← held_concat, held, List.reverse_reverse, ofMembers_some]
      simp [Machine.step, Machine.afterValue, ← members]
  | cons member others ih =>
      obtain ⟨name, element⟩ := member
      obtain ⟨first, scans, builds⟩ := each (name, element) List.mem_cons_self
      obtain ⟨rest, scansRest, completes⟩ :=
        ih fun other member => each other (List.mem_cons_of_mem _ member)
      refine ⟨.comma :: .text name :: .colon :: first ++ rest, ?_,
        fun key value earlier stack => ?_⟩
      · have colon : Scans ": " [.colon] := fun _ => rfl
        have named := ((scans_comma_line level).append (scans_quote name)).append colon
        exact (named.append scans).append scansRest
      · have next : [Token.comma, .text name, .colon].foldlM Machine.step
            (.complete value (.object (held earlier) (some key) :: stack)) =
              some (.awaitValue
                (.object (held (earlier ++ [(key, value)])) (some name) :: stack)) := by
          rw [held_concat]
          rfl
        have split : .comma :: .text name :: .colon :: first ++ rest ++ [Token.closeBrace] =
            [.comma, .text name, .colon] ++ (first ++ (rest ++ [.closeBrace])) := by
          simp
        rw [split, List.foldlM_append, next, Option.bind_eq_bind, Option.bind_some,
          List.foldlM_append, builds, Option.bind_eq_bind, Option.bind_some, completes,
          List.append_assoc, List.singleton_append]

theorem isWriting_array {elements : List Json}
    (each : ∀ level, ∀ element ∈ elements, IsWriting (renderAt level element) element) :
    IsWriting (renderAt level (.array elements)) (.array elements) := by
  have close : Scans "]" [.closeBracket] := fun _ => rfl
  cases elements with
  | nil => exact ⟨[.openBracket, .closeBracket], fun _ => by rw [renderAt]; rfl, fun _ => rfl⟩
  | cons element others =>
      obtain ⟨first, scans, builds⟩ := each (level + 1) element List.mem_cons_self
      obtain ⟨rest, scansRest, completes⟩ := exists_scan_elements
        fun other member => each (level + 1) other (List.mem_cons_of_mem element member)
      have opened : Scans ("[" ++ lineStart (level + 1)) [.openBracket] :=
        Scans.then_nothing (fun _ => rfl) (scans_lineStart _)
      refine ⟨.openBracket :: first ++ rest ++ [.closeBracket], ?_, fun stack => ?_⟩
      · rw [renderAt]
        exact (((opened.append scans).append scansRest).then_nothing
          (scans_lineStart level)).append close
      · have begun : Machine.step (.awaitValue stack) .openBracket =
            some (.arrayOpened stack) := rfl
        rw [List.append_assoc, List.cons_append, List.foldlM_cons, begun, Option.bind_eq_bind,
          Option.bind_some, List.foldlM_append, builds.first_element, Option.bind_eq_bind,
          Option.bind_some, completes, List.reverse_nil, List.nil_append]

theorem isWriting_object {members : List (String × Json)}
    (each : ∀ level, ∀ member ∈ members, IsWriting (renderAt level member.2) member.2) :
    IsWriting (renderAt level (.object members)) (.object members) := by
  have close : Scans "\x7d" [.closeBrace] := fun _ => rfl
  cases members with
  | nil => exact ⟨[.openBrace, .closeBrace], fun _ => by rw [renderAt]; rfl, fun _ => rfl⟩
  | cons member others =>
      obtain ⟨name, element⟩ := member
      obtain ⟨first, scans, builds⟩ := each (level + 1) (name, element) List.mem_cons_self
      obtain ⟨rest, scansRest, completes⟩ := exists_scan_members
        fun other member => each (level + 1) other (List.mem_cons_of_mem _ member)
      have opened : Scans ("\x7b" ++ lineStart (level + 1)) [.openBrace] :=
        Scans.then_nothing (fun _ => rfl) (scans_lineStart _)
      have colon : Scans ": " [.colon] := fun _ => rfl
      refine ⟨[.openBrace, .text name, .colon] ++ first ++ rest ++ [.closeBrace], ?_,
        fun stack => ?_⟩
      · rw [renderAt]
        have named := (opened.append (scans_quote name)).append colon
        exact (((named.append scans).append scansRest).then_nothing
          (scans_lineStart level)).append close
      · have begun : [Token.openBrace, .text name, .colon].foldlM Machine.step
            (.awaitValue stack) =
              some (.awaitValue (.object (held []) (some name) :: stack)) := rfl
        rw [List.append_assoc, List.append_assoc, List.foldlM_append, begun, Option.bind_eq_bind,
          Option.bind_some, List.foldlM_append, builds, Option.bind_eq_bind, Option.bind_some,
          completes, List.nil_append]

theorem IsTextual.isWriting {value : Json} (textual : value.IsTextual) (level : Nat) :
    IsWriting (renderAt level value) value := by
  induction textual generalizing level with
  | text value =>
      rw [renderAt]
      exact isWriting_quote value
  | array _ each => exact isWriting_array fun level element member => each element member level
  | object _ each => exact isWriting_object fun level member isMember => each member isMember level

/-- The text of a value with a line end behind it is read as that value. -/
theorem parse?_render {value : Json} (textual : value.IsTextual) :
    parse? (value.render ++ "\n") = some value := by
  obtain ⟨read, scans, builds⟩ := textual.isWriting 0
  have cut : tokens? (value.render ++ "\n").toList = some read := by
    have scanned := scans.then_nothing scans_lineEnd []
    rw [tokens?, render, scanned]
    simp
  rw [parse?, cut, Option.bind_some, ofTokens?, builds []]

end Writing

end ODataClient.Json
