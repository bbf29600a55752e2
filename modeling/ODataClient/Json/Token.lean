/-!
# Tokens of JSON

A JSON text is cut into brackets, separators, literals and quoted texts. The scanner walks the
text once, character by character, and knows of the token that it is in.
-/

namespace ODataClient.Json

inductive Token where
  | openBrace
  | closeBrace
  | openBracket
  | closeBracket
  | colon
  | comma
  | null
  | bool (value : Bool)
  | number (literal : String)
  | text (value : String)
  /-- A quoted text with an escaped half of a surrogate pair. -/
  | brokenText
deriving DecidableEq, Repr

/-- What one place of a quoted text holds: a character, or a code written in hexadecimal. -/
inductive Place where
  | char (c : Char)
  | code (value : Nat)
deriving DecidableEq, Repr

/-- The text that the places hold, two halves of a surrogate pair making one character. A half
without its partner makes no text. -/
def textOf : List Place → Option (List Char)
  | [] => some []
  | .char c :: places => (textOf places).map (c :: ·)
  | .code high :: .code low :: places =>
    if 0xD800 ≤ high ∧ high < 0xDC00 then
      if 0xDC00 ≤ low ∧ low < 0xE000 then
        (textOf places).map (Char.ofNat (0x10000 + (high - 0xD800) * 0x400 + (low - 0xDC00)) :: ·)
      else none
    else if 0xDC00 ≤ high ∧ high < 0xE000 then none
    else (textOf (.code low :: places)).map (Char.ofNat high :: ·)
  | .code value :: places =>
    if 0xD800 ≤ value ∧ value < 0xE000 then none
    else (textOf places).map (Char.ofNat value :: ·)

def Token.ofPlaces (places : List Place) : Token :=
  match textOf places with
  | some characters => .text (String.ofList characters)
  | none => .brokenText

/-- What follows the digits of a number: nothing, or an exponent, whose sign is optional. -/
def isExponent : List Char → Bool
  | [] => true
  | e :: '+' :: digits => (e == 'e' || e == 'E') && !digits.isEmpty && digits.all Char.isDigit
  | e :: '-' :: digits => (e == 'e' || e == 'E') && !digits.isEmpty && digits.all Char.isDigit
  | e :: digits => (e == 'e' || e == 'E') && !digits.isEmpty && digits.all Char.isDigit

/-- What follows the whole part of a number: an optional fraction and an optional exponent. -/
def isFraction : List Char → Bool
  | '.' :: rest =>
    !(rest.takeWhile Char.isDigit).isEmpty && isExponent (rest.dropWhile Char.isDigit)
  | rest => isExponent rest

/-- Whether the characters are a number without a sign. A whole part of several digits does not
begin with a zero. -/
def isUnsignedNumber : List Char → Bool
  | '0' :: rest => isFraction rest
  | c :: rest => c.isDigit && isFraction (rest.dropWhile Char.isDigit)
  | [] => false

def isNumber : List Char → Bool
  | '-' :: rest => isUnsignedNumber rest
  | rest => isUnsignedNumber rest

/-- The literal that a run of characters without blanks, brackets and quotation marks is. -/
def Token.ofWord? (word : List Char) : Option Token :=
  if word = ['n', 'u', 'l', 'l'] then some .null
  else if word = ['t', 'r', 'u', 'e'] then some (.bool true)
  else if word = ['f', 'a', 'l', 's', 'e'] then some (.bool false)
  else if isNumber word then some (.number (String.ofList word))
  else none

/-- Where the scanner stands. Characters and places are held in reverse. -/
inductive Mode where
  | between
  | inWord (word : List Char)
  | inText (places : List Place)
  | afterBackslash (places : List Place)
  | inCode (places : List Place) (missing : Nat) (value : Nat)

/-- The scanner: the tokens read so far, in reverse, and where it stands. -/
structure Scanner where
  tokens : List Token
  mode : Mode

def hexDigit? (c : Char) : Option Nat :=
  if c.isDigit then some (c.toNat - '0'.toNat)
  else if 'a' ≤ c ∧ c ≤ 'f' then some (c.toNat - 'a'.toNat + 10)
  else if 'A' ≤ c ∧ c ≤ 'F' then some (c.toNat - 'A'.toNat + 10)
  else none

/-- The character that a letter after a backslash stands for. -/
def escaped? (c : Char) : Option Char :=
  if c = '"' ∨ c = '\\' ∨ c = '/' then some c
  else if c = 'b' then some (Char.ofNat 8)
  else if c = 'f' then some (Char.ofNat 12)
  else if c = 'n' then some '\n'
  else if c = 'r' then some '\r'
  else if c = 't' then some '\t'
  else none

/-- The characters between tokens. -/
def isBlank (c : Char) : Bool :=
  c == ' ' || c == '\t' || c == '\n' || c == '\r'

/-- The bracket or separator that a character is. -/
def punctuation? (c : Char) : Option Token :=
  if c = '\x7b' then some .openBrace
  else if c = '\x7d' then some .closeBrace
  else if c = '[' then some .openBracket
  else if c = ']' then some .closeBracket
  else if c = ':' then some .colon
  else if c = ',' then some .comma
  else none

/-- One character between tokens. -/
def scanBetween (tokens : List Token) (c : Char) : Scanner :=
  if isBlank c then ⟨tokens, .between⟩
  else if c = '"' then ⟨tokens, .inText []⟩
  else
    match punctuation? c with
    | some token => ⟨token :: tokens, .between⟩
    | none => ⟨tokens, .inWord [c]⟩

def Scanner.step (scanner : Scanner) (c : Char) : Option Scanner :=
  let tokens := scanner.tokens
  match scanner.mode with
  | .between => some (scanBetween tokens c)
  | .inWord word =>
    if isBlank c || c == '"' || (punctuation? c).isSome then
      (Token.ofWord? word.reverse).map fun token => scanBetween (token :: tokens) c
    else some ⟨tokens, .inWord (c :: word)⟩
  | .inText places =>
    if c = '"' then some ⟨Token.ofPlaces places.reverse :: tokens, .between⟩
    else if c = '\\' then some ⟨tokens, .afterBackslash places⟩
    else if c.toNat < 32 then none
    else some ⟨tokens, .inText (.char c :: places)⟩
  | .afterBackslash places =>
    if c = 'u' then some ⟨tokens, .inCode places 4 0⟩
    else (escaped? c).map fun meant => ⟨tokens, .inText (.char meant :: places)⟩
  | .inCode places missing value => do
    let digit ← hexDigit? c
    let value := value * 16 + digit
    match missing with
    | 0 | 1 => return ⟨tokens, .inText (.code value :: places)⟩
    | missing + 1 => return ⟨tokens, .inCode places missing value⟩

def tokens? (text : List Char) : Option (List Token) := do
  let scanner ← text.foldlM Scanner.step ⟨[], .between⟩
  match scanner.mode with
  | .between => return scanner.tokens.reverse
  | .inWord word => do
    let token ← Token.ofWord? word.reverse
    return (token :: scanner.tokens).reverse
  | _ => none

end ODataClient.Json
