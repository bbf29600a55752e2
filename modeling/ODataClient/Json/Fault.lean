import ODataClient.Json.Parser

/-!
# Faults of JSON texts

Where a text stops being JSON, and what is wrong there. The characters are watched by the scanner
and the machine that read JSON, until one of them refuses what comes.
-/

namespace ODataClient.Json

/-- What is wrong with a text that is no JSON. -/
inductive Problem where
  | unfinishedValue
  | unfinishedText
  | unfinishedArray
  | unfinishedObject
  | expectedValue
  | expectedLiteral
  | expectedColon
  | expectedArrayEnd
  | expectedObjectEnd
  | expectedKey
  | trailingComma
  /-- There is something behind the value. -/
  | leftover
  | invalidNumber
  | invalidEscape
  | controlCharacter
deriving DecidableEq, Repr

def Problem.message : Problem → String
  | unfinishedValue => "EOF while parsing a value"
  | unfinishedText => "EOF while parsing a string"
  | unfinishedArray => "EOF while parsing a list"
  | unfinishedObject => "EOF while parsing an object"
  | expectedValue => "expected value"
  | expectedLiteral => "expected ident"
  | expectedColon => "expected `:`"
  | expectedArrayEnd => "expected `,` or `]`"
  | expectedObjectEnd => "expected `,` or `\x7d`"
  | expectedKey => "key must be a string"
  | trailingComma => "trailing comma"
  | leftover => "trailing characters"
  | invalidNumber => "invalid number"
  | invalidEscape => "invalid escape"
  | controlCharacter => "control character (\\u0000-\\u001F) found while parsing a string"

namespace Machine

/-- What is wrong if the text ends here. -/
def problemAtEnd? : Machine → Option Problem
  | .awaitValue _ | .awaitKey .. => some .unfinishedValue
  | .arrayOpened _ => some .unfinishedArray
  | .objectOpened _ | .awaitColon .. => some .unfinishedObject
  | .complete _ [] => none
  | .complete _ (.array _ :: _) => some .unfinishedArray
  | .complete _ (.object .. :: _) => some .unfinishedObject

/-- What is wrong with a token that is not taken. -/
def problemWith : Machine → Token → Problem
  | .awaitValue (.array _ :: _), .closeBracket | .awaitKey .., .closeBrace => .trailingComma
  | .awaitValue _, _ | .arrayOpened _, _ => .expectedValue
  | .objectOpened _, _ | .awaitKey .., _ => .expectedKey
  | .awaitColon .., _ => .expectedColon
  | .complete _ [], _ => .leftover
  | .complete _ (.array _ :: _), _ => .expectedArrayEnd
  | .complete _ (.object .. :: _), _ => .expectedObjectEnd

/-- Takes a token, or tells what is wrong with it. -/
def take (machine : Machine) (token : Token) : Except Problem Machine :=
  match machine.step token with
  | some next => .ok next
  | none => .error (machine.problemWith token)

end Machine

/-- Where the scanner stands and what the machine has read. -/
structure Watch where
  mode : Mode
  machine : Machine

def beginsNumber : List Char → Bool
  | [] => false
  | c :: rest => (c = '-' || c.isDigit) &&
      rest.all fun c => c.isDigit || ['.', 'e', 'E', '+', '-'].contains c

def beginsLiteral (word : List Char) : Bool :=
  beginsNumber word || ["null", "true", "false"].any fun literal => word.isPrefixOf literal.toList

/-- What is wrong with a literal that is not complete. -/
def problemInWord (word : List Char) : Problem :=
  if beginsNumber word then .invalidNumber else .expectedLiteral

namespace Watch

/-- Takes a character between tokens. What may not come is refused at its first character. -/
def between (machine : Machine) (c : Char) : Except Problem Watch :=
  if isBlank c then .ok ⟨.between, machine⟩
  else if c = '"' then (machine.take (.text "")).map fun _ => ⟨.inText [], machine⟩
  else
    match punctuation? c with
    | some token => (machine.take token).map (⟨.between, ·⟩)
    | none => do
      let _ ← machine.take .null
      if beginsLiteral [c] then .ok ⟨.inWord [c], machine⟩ else .error .expectedValue

def step (watch : Watch) (c : Char) : Except Problem Watch :=
  match watch.mode with
  | .between => between watch.machine c
  | .inWord word =>
    if beginsLiteral (c :: word).reverse then .ok ⟨.inWord (c :: word), watch.machine⟩
    else
      match Token.ofWord? word.reverse with
      | some token => do between (← watch.machine.take token) c
      | none => .error (problemInWord word.reverse)
  | mode =>
    match Scanner.step ⟨[], mode⟩ c, mode with
    | some ⟨token :: _, next⟩, _ => (watch.machine.take token).map (⟨next, ·⟩)
    | some ⟨[], next⟩, _ => .ok ⟨next, watch.machine⟩
    | none, .inText _ => .error .controlCharacter
    | none, _ => .error .invalidEscape

/-- What is wrong if the text ends here. -/
def problemAtEnd? (watch : Watch) : Option Problem :=
  match watch.mode with
  | .between => watch.machine.problemAtEnd?
  | .inWord word =>
    match Token.ofWord? word.reverse with
    | none => some .unfinishedValue
    | some token =>
      match watch.machine.take token with
      | .ok machine => machine.problemAtEnd?
      | .error problem => some problem
  | _ => some .unfinishedText

end Watch

/-- A problem with the line and the column, counted in bytes, up to which a text was read. -/
structure Fault where
  problem : Problem
  line : Nat
  column : Nat
deriving DecidableEq, Repr

def Fault.message (fault : Fault) : String :=
  s!"{fault.problem.message} at line {fault.line} column {fault.column}"

/-- The first fault in the rest of a text, from a line and a column on. -/
def faultFrom? (line column : Nat) (watch : Watch) : List Char → Option Fault
  | [] => watch.problemAtEnd?.map (⟨·, line, column⟩)
  | c :: rest =>
    match watch.step c with
    | .error problem =>
      some (if c = '\n' then ⟨problem, line + 1, 0⟩ else ⟨problem, line, column + 1⟩)
    | .ok next =>
      if c = '\n' then faultFrom? (line + 1) 0 next rest
      else faultFrom? line (column + c.utf8Size) next rest

/-- The first fault in a text, if it is no JSON. -/
def fault? (text : String) : Option Fault :=
  faultFrom? 1 0 ⟨.between, .awaitValue []⟩ text.toList

end ODataClient.Json
