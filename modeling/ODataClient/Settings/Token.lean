import ODataClient.Json.Token

/-!
# Tokens of settings

A settings file is written in TOML. Its text is cut into words, blanks, quoted texts, brackets,
separators and ends of lines by a scanner that takes one character after the other. Numbers and
dates are made of words, points and blanks.
-/

namespace ODataClient.Settings

inductive Token where
  /-- Any characters that have no meaning of their own. -/
  | word (letters : String)
  | blanks (letters : String)
  | text (value : String)
  /-- A text in three quotation marks on each side, which may have several lines. -/
  | longText (value : String)
  | equals
  | point
  | comma
  | openBracket
  | closeBracket
  | openBrace
  | closeBrace
  | lineEnd
deriving DecidableEq, Repr

/-- The quotation marks. Only in a text between double ones a backslash has a meaning. -/
inductive Mark where
  | single
  | double
deriving DecidableEq, Repr

/-- A text that is being read, its characters in reverse. -/
structure OpenText where
  mark : Mark
  isLong : Bool
  characters : List Char

/-- Where the scanner stands. Letters are held in reverse. -/
inductive Mode where
  | between
  | word (letters : List Char)
  | blanks (letters : List Char)
  | comment
  /-- Behind a carriage return, which only a line feed may follow. -/
  | return
  /-- Behind the first mark. -/
  | opened (mark : Mark)
  /-- Behind two marks, which are an empty text or begin a long one. -/
  | openedTwice (mark : Mark)
  /-- At the start of a long text, where the end of a line does not count. -/
  | openedLong (mark : Mark)
  /-- Behind a carriage return there. -/
  | returnAtStart (mark : Mark)
  | text (text : OpenText)
  /-- Behind some marks in a long text, which end it if they are three or more. -/
  | marks (text : OpenText) (count : Nat)
  /-- Behind a carriage return in a long text. -/
  | returnInText (text : OpenText)
  | afterBackslash (text : OpenText)
  | inCode (text : OpenText) (missing : Nat) (value : Nat)
  /-- Behind a backslash at the end of a line, where blanks and ends of lines do not count. -/
  | folded (text : OpenText) (hasLineEnd : Bool)
  /-- Behind a carriage return there. -/
  | returnInFold (text : OpenText)

/-- The scanner: the tokens read so far, in reverse, and where it stands. -/
structure Scanner where
  tokens : List Token
  mode : Mode

namespace Mark

/-- The mark that a character is. -/
def ofChar? (c : Char) : Option Mark :=
  if c = '"' then some double
  else if c = '\'' then some single
  else none

def char : Mark → Char
  | single => '\''
  | double => '"'

end Mark

namespace OpenText

variable (text : OpenText)

def push (c : Char) : OpenText := { text with characters := c :: text.characters }

def pushMarks (count : Nat) : OpenText :=
  { text with characters := List.replicate count text.mark.char ++ text.characters }

def token : Token :=
  let value := String.ofList text.characters.reverse
  if text.isLong then .longText value else .text value

end OpenText

/-- The blanks inside of lines. -/
def isBlank (c : Char) : Bool := c = ' ' || c = '\t'

/-- Whether a character may stand for itself in a text or a comment. -/
def isPlain (c : Char) : Bool := c = '\t' || (32 ≤ c.toNat && c.toNat ≠ 127)

/-- Whether a character may stand in a name without quotation marks. -/
def isNameLetter (c : Char) : Bool := c.isAlphanum || c = '_' || c = '-'

/-- The bracket or separator that a character is. -/
def punctuation? (c : Char) : Option Token :=
  if c = '=' then some .equals
  else if c = '.' then some .point
  else if c = ',' then some .comma
  else if c = '[' then some .openBracket
  else if c = ']' then some .closeBracket
  else if c = '\x7b' then some .openBrace
  else if c = '\x7d' then some .closeBrace
  else none

/-- Whether a character ends a word. A quotation mark does not. -/
def endsWord (c : Char) : Bool :=
  isBlank c || c = '\n' || c = '\r' || c = '#' || (punctuation? c).isSome

/-- The character that a letter after a backslash stands for. -/
def escaped? (c : Char) : Option Char :=
  if c = '/' then none
  else if c = 'e' then some '\x1b'
  else Json.escaped? c

/-- The character with a code, unless the code is one half of a surrogate pair or too large. -/
def charOfCode? (code : Nat) : Option Char :=
  if code.isValidChar then some (Char.ofNat code) else none

namespace Scanner

/-- One character between tokens. -/
def between (tokens : List Token) (c : Char) : Option Scanner :=
  if isBlank c then some ⟨tokens, .blanks [c]⟩
  else if c = '\n' then some ⟨.lineEnd :: tokens, .between⟩
  else if c = '\r' then some ⟨tokens, .return⟩
  else if c = '#' then some ⟨tokens, .comment⟩
  else
    match Mark.ofChar? c, punctuation? c with
    | some mark, _ => some ⟨tokens, .opened mark⟩
    | none, some token => some ⟨token :: tokens, .between⟩
    | none, none => some ⟨tokens, .word [c]⟩

/-- One character of a text. -/
def inText (tokens : List Token) (text : OpenText) (c : Char) : Option Scanner :=
  if c = text.mark.char then
    if text.isLong then some ⟨tokens, .marks text 1⟩
    else some ⟨text.token :: tokens, .between⟩
  else if c = '\\' && text.mark = .double then some ⟨tokens, .afterBackslash text⟩
  else if isPlain c || (c = '\n' && text.isLong) then some ⟨tokens, .text (text.push c)⟩
  else if c = '\r' && text.isLong then some ⟨tokens, .returnInText text⟩
  else none

/-- One character behind a backslash. -/
def afterBackslash (tokens : List Token) (text : OpenText) (c : Char) : Option Scanner :=
  if c = 'x' then some ⟨tokens, .inCode text 2 0⟩
  else if c = 'u' then some ⟨tokens, .inCode text 4 0⟩
  else if c = 'U' then some ⟨tokens, .inCode text 8 0⟩
  else if text.isLong && isBlank c then some ⟨tokens, .folded text false⟩
  else if text.isLong && c = '\n' then some ⟨tokens, .folded text true⟩
  else if text.isLong && c = '\r' then some ⟨tokens, .returnInFold text⟩
  else (escaped? c).map fun meant => ⟨tokens, .text (text.push meant)⟩

def step (scanner : Scanner) (c : Char) : Option Scanner :=
  let tokens := scanner.tokens
  match scanner.mode with
  | .between => between tokens c
  | .word letters =>
    if endsWord c then between (.word (String.ofList letters.reverse) :: tokens) c
    else some ⟨tokens, .word (c :: letters)⟩
  | .blanks letters =>
    if isBlank c then some ⟨tokens, .blanks (c :: letters)⟩
    else between (.blanks (String.ofList letters.reverse) :: tokens) c
  | .comment =>
    if isPlain c then some ⟨tokens, .comment⟩
    else if c = '\n' || c = '\r' then between tokens c
    else none
  | .return => if c = '\n' then between tokens c else none
  | .opened mark =>
    if c = mark.char then some ⟨tokens, .openedTwice mark⟩
    else inText tokens ⟨mark, false, []⟩ c
  | .openedTwice mark =>
    if c = mark.char then some ⟨tokens, .openedLong mark⟩
    else between (.text "" :: tokens) c
  | .openedLong mark =>
    if c = '\n' then some ⟨tokens, .text ⟨mark, true, []⟩⟩
    else if c = '\r' then some ⟨tokens, .returnAtStart mark⟩
    else inText tokens ⟨mark, true, []⟩ c
  | .returnAtStart mark => if c = '\n' then some ⟨tokens, .text ⟨mark, true, []⟩⟩ else none
  | .text text => inText tokens text c
  | .marks text count =>
    if c = text.mark.char then
      if count < 5 then some ⟨tokens, .marks text (count + 1)⟩ else none
    else if count < 3 then inText tokens (text.pushMarks count) c
    else between ((text.pushMarks (count - 3)).token :: tokens) c
  | .returnInText text => if c = '\n' then inText tokens (text.push '\r') c else none
  | .afterBackslash text => afterBackslash tokens text c
  | .inCode text missing value => do
    let value := value * 16 + (← Json.hexDigit? c)
    match missing with
    | 0 | 1 => return ⟨tokens, .text (text.push (← charOfCode? value))⟩
    | missing + 1 => return ⟨tokens, .inCode text missing value⟩
  | .folded text hasLineEnd =>
    if isBlank c then some ⟨tokens, .folded text hasLineEnd⟩
    else if c = '\n' then some ⟨tokens, .folded text true⟩
    else if c = '\r' then some ⟨tokens, .returnInFold text⟩
    else if hasLineEnd then inText tokens text c
    else none
  | .returnInFold text => if c = '\n' then some ⟨tokens, .folded text true⟩ else none

/-- All tokens, at the end of the text. -/
def finish (scanner : Scanner) : Option (List Token) :=
  let tokens := scanner.tokens
  match scanner.mode with
  | .between | .comment => some tokens.reverse
  | .word letters => some (.word (String.ofList letters.reverse) :: tokens).reverse
  | .blanks letters => some (.blanks (String.ofList letters.reverse) :: tokens).reverse
  | .openedTwice _ => some (.text "" :: tokens).reverse
  | .marks text count =>
    if count < 3 then none else some ((text.pushMarks (count - 3)).token :: tokens).reverse
  | _ => none

end Scanner

/-- The tokens of a text, in order. A byte order mark in front does not count. -/
def tokens? (text : List Char) : Option (List Token) :=
  let text := if text.head? = some '\uFEFF' then text.tail else text
  (text.foldlM Scanner.step ⟨[], .between⟩).bind Scanner.finish

end ODataClient.Settings
