import ODataClient.Proofs.Json.RoundTrip
import ODataClient.TypeScript.Expression

/-!
# String literals

What stands between the quotes of a literal is read back escape by escape. Backslashes and quotes
are escaped when a literal is written, and both together make every text readable again: no quote
but the last ends the literal, and nothing that was not an escape becomes one. The ends of lines are
written as they are, where the language allows none.
-/

namespace ODataClient.TypeScript

/-- The characters that may stand in a literal in an escaped form only, as they end a line. -/
def isLineTerminator (c : Char) : Bool :=
  c = '\n' || c = '\r' || c.toNat = 0x2028 || c.toNat = 0x2029

/-- What stands before the first quote that is not escaped, and what stands behind it. -/
def cutAtQuote? : List Char → Option (List Char × List Char)
  | [] => none
  | '\'' :: rest => some ([], rest)
  | '\\' :: c :: rest => (cutAtQuote? rest).map fun (before, after) => ('\\' :: c :: before, after)
  | c :: rest => (cutAtQuote? rest).map fun (before, after) => (c :: before, after)

/-- The character that another one stands for behind a backslash. Digits belong to codes, but for a
zero that no digit follows. -/
def escapeValue? (c : Char) (next : Option Char) : Option Char :=
  if c = 'b' then some (Char.ofNat 8)
  else if c = 't' then some '\t'
  else if c = 'n' then some '\n'
  else if c = 'v' then some (Char.ofNat 11)
  else if c = 'f' then some (Char.ofNat 12)
  else if c = 'r' then some '\r'
  else if c = '0' ∧ next.any Char.isDigit = false then some (Char.ofNat 0)
  else if c.isDigit ∨ c = 'x' ∨ c = 'u' then none
  else some c

def hexValue? (digits : List Char) : Option Nat :=
  digits.foldlM (fun value digit => (Json.hexDigit? digit).map (value * 16 + ·)) 0

/-- What the places of a literal's body hold. A line that ends behind a backslash goes on in the
next. -/
def placesOf? : List Char → Option (List Json.Place)
  | [] => some []
  | '\\' :: 'x' :: a :: b :: rest => do
    let code ← hexValue? [a, b]
    let places ← placesOf? rest
    return .code code :: places
  | '\\' :: 'u' :: a :: b :: c :: d :: rest => do
    let code ← hexValue? [a, b, c, d]
    let places ← placesOf? rest
    return .code code :: places
  | '\\' :: '\r' :: '\n' :: rest => placesOf? rest
  | '\\' :: c :: rest =>
    if isLineTerminator c then placesOf? rest
    else do
      let meant ← escapeValue? c rest.head?
      let places ← placesOf? rest
      return .char meant :: places
  | ['\\'] => none
  | c :: rest => do
    let places ← placesOf? rest
    return .char c :: places

def decode? (body : List Char) : Option (List Char) :=
  (placesOf? body).bind Json.textOf

variable {c : Char}

theorem escapeChar_cases (c : Char) :
    (escapeChar c = ['\\', c] ∧ (c = '\\' ∨ c = '\'')) ∨
      (escapeChar c = [c] ∧ c ≠ '\\' ∧ c ≠ '\'') := by
  unfold escapeChar
  split
  · next isBackslash => exact .inl ⟨by rw [isBackslash], .inl isBackslash⟩
  · next noBackslash =>
    split
    · next isQuote => exact .inl ⟨by rw [isQuote], .inr isQuote⟩
    · next noQuote => exact .inr ⟨rfl, noBackslash, noQuote⟩

theorem cutAtQuote?_escapeChar (c : Char) (rest : List Char) :
    cutAtQuote? (escapeChar c ++ rest) =
      (cutAtQuote? rest).map fun (before, after) => (escapeChar c ++ before, after) := by
  rcases escapeChar_cases c with ⟨escaped, -⟩ | ⟨plain, noBackslash, noQuote⟩
  · rw [escaped]
    rfl
  · rw [plain]
    simp [cutAtQuote?, noBackslash]

theorem placesOf?_escapeChar (c : Char) (rest : List Char) :
    placesOf? (escapeChar c ++ rest) = (placesOf? rest).map (.char c :: ·) := by
  have read : placesOf? (escapeChar c ++ rest) =
      (placesOf? rest).bind fun places => some (.char c :: places) := by
    rcases escapeChar_cases c with ⟨escaped, rfl | rfl⟩ | ⟨plain, noBackslash, -⟩
    · rw [escaped]
      simp [placesOf?, isLineTerminator, escapeValue?]
    · rw [escaped]
      simp [placesOf?, isLineTerminator, escapeValue?]
    · rw [plain]
      simp [placesOf?, noBackslash]
  rw [read, Option.map_eq_bind]
  rfl

/-- Escaped characters hold no quote that ends a literal: by induction on them, the quote behind
them is the first that is not escaped. -/
theorem cutAtQuote?_flatMap_escapeChar (text rest : List Char) :
    cutAtQuote? (text.flatMap escapeChar ++ '\'' :: rest) =
      some (text.flatMap escapeChar, rest) := by
  induction text with
  | nil => rfl
  | cons c text ih =>
      rw [List.flatMap_cons, List.append_assoc, cutAtQuote?_escapeChar, ih]
      rfl

theorem placesOf?_flatMap_escapeChar (text : List Char) :
    placesOf? (text.flatMap escapeChar) = some (text.map .char) := by
  induction text with
  | nil => rfl
  | cons c text ih =>
      rw [List.flatMap_cons, placesOf?_escapeChar, ih]
      rfl

theorem decode?_flatMap_escapeChar (text : List Char) :
    decode? (text.flatMap escapeChar) = some text := by
  rw [decode?, placesOf?_flatMap_escapeChar, Option.bind_some]
  apply Json.textOf_of_forall₂
  induction text with
  | nil => exact .nil
  | cons c text ih => exact .cons (.char c) ih

theorem toList_stringLiteral (text : String) :
    (stringLiteral text).toList = '\'' :: (text.toList.flatMap escapeChar ++ ['\'']) := by
  simp [stringLiteral]

def replaceChar (old : Char) (new text : List Char) : List Char :=
  text.flatMap fun c => if c = old then new else [c]

/-- Doubling the backslashes first and escaping the quotes after that comes to the same, since the
second does not touch what the first has written. -/
theorem replaceChar_replaceChar (text : List Char) :
    replaceChar '\'' ['\\', '\''] (replaceChar '\\' ['\\', '\\'] text) =
      text.flatMap escapeChar := by
  induction text with
  | nil => rfl
  | cons c text ih =>
      have first : replaceChar '\'' ['\\', '\''] (if c = '\\' then ['\\', '\\'] else [c]) =
          escapeChar c := by
        unfold escapeChar
        split
        · rfl
        · simp [replaceChar]
      simp only [replaceChar, List.flatMap_cons, List.flatMap_append] at first ih ⊢
      rw [first, ih]

/-- The only characters that a literal adds are backslashes and quotes. -/
theorem mem_stringLiteral_iff {text : String} (isTerminator : isLineTerminator c = true) :
    c ∈ (stringLiteral text).toList ↔ c ∈ text.toList := by
  have noBackslash : c ≠ '\\' := by
    rintro rfl
    exact absurd isTerminator (by decide)
  have noQuote : c ≠ '\'' := by
    rintro rfl
    exact absurd isTerminator (by decide)
  have escaped (other : Char) : c ∈ escapeChar other ↔ c = other := by
    rcases escapeChar_cases other with ⟨written, -⟩ | ⟨written, -⟩ <;> simp [written, noBackslash]
  rw [toList_stringLiteral]
  simp [noQuote, escaped]

theorem withinLine_stringLiteral_iff {text : String} :
    (∀ c ∈ (stringLiteral text).toList, isLineTerminator c = false) ↔
      ∀ c ∈ text.toList, isLineTerminator c = false := by
  simp only [← Bool.not_eq_true]
  constructor
  · intro within c member isTerminator
    exact within c ((mem_stringLiteral_iff isTerminator).2 member) isTerminator
  · intro within c member isTerminator
    exact within c ((mem_stringLiteral_iff isTerminator).1 member) isTerminator

/-- Whether a literal stands in single quotes of which the second is the only one behind the first
that is not escaped, and its escapes are those of a text. -/
def IsQuotedFor (literal text : List Char) : Prop :=
  ∃ body, literal = '\'' :: (body ++ ['\'']) ∧ cutAtQuote? (body ++ ['\'']) = some (body, []) ∧
    decode? body = some text

/-- Whether a literal is well-formed, that is, quoted and within a line, and stands for a text. -/
structure IsLiteralFor (literal text : List Char) : Prop where
  quoted : IsQuotedFor literal text
  withinLine : ∀ c ∈ literal, isLineTerminator c = false

/-- Escaping in two passes quotes every text in such a way that it can be read back. The literal is
well-formed exactly if the text stays within a line. -/
theorem isLiteralFor_iff (text : String) :
    (stringLiteral text).toList = '\'' :: (replaceChar '\'' ['\\', '\'']
        (replaceChar '\\' ['\\', '\\'] text.toList) ++ ['\'']) ∧
    IsQuotedFor (stringLiteral text).toList text.toList ∧
      (IsLiteralFor (stringLiteral text).toList text.toList ↔
        ∀ c ∈ text.toList, isLineTerminator c = false) := by
  have quoted : IsQuotedFor (stringLiteral text).toList text.toList :=
    ⟨_, toList_stringLiteral text, cutAtQuote?_flatMap_escapeChar text.toList [],
      decode?_flatMap_escapeChar text.toList⟩
  refine ⟨?_, quoted, ?_⟩
  · rw [replaceChar_replaceChar, toList_stringLiteral]
  constructor
  · intro literal
    exact withinLine_stringLiteral_iff.1 literal.withinLine
  · intro within
    exact ⟨quoted, withinLine_stringLiteral_iff.2 within⟩

/-- Escapes do not get in each other's way. -/
example : stringLiteral "\\'n" = "'\\\\\\'n'" := by decide +kernel

/-- A path of a service with a line feed at its end, which the quote then stands behind. -/
theorem exists_literal_over_lines :
    stringLiteral "/odata/bakery\n" = "'/odata/bakery\n'" ∧
      ¬ IsLiteralFor (stringLiteral "/odata/bakery\n").toList "/odata/bakery\n".toList := by
  have written : stringLiteral "/odata/bakery\n" = "'/odata/bakery\n'" := by decide +kernel
  refine ⟨written, fun literal => ?_⟩
  have within := literal.withinLine '\n' (by rw [written]; decide)
  exact absurd within (by decide)

end ODataClient.TypeScript
