import ODataClient.Settings.Value

/-!
# Lines of settings

A line of a settings file names a table or assigns a value. A value in brackets may go on over
several lines of the text.
-/

namespace ODataClient.Settings

/-- A line that is not empty. -/
inductive Line where
  /-- The lines that follow belong to a table. -/
  | table (name : List String)
  | assignment (name : List String) (value : Value)

def Line.isAssignment : Line → Bool
  | .assignment .. => true
  | .table _ => false

/-- The name in parts that some tokens make. -/
def name? : List Token → Option (List String)
  | [] => none
  | [token] => do return [← token.namePart?]
  | token :: .point :: rest => do return (← token.namePart?) :: (← name? rest)
  | _ :: _ :: _ => none

def Token.isBlanks : Token → Bool
  | .blanks _ => true
  | _ => false

/-- The line that some tokens make. In names blanks have no meaning. -/
def Line.ofTokens? (tokens : List Token) : Option Line :=
  match tokens.filter (!·.isBlanks) with
  | .openBracket :: rest => do
    guard (rest.getLast? = some .closeBracket)
    return .table (← name? rest.dropLast)
  | others => do
    let name ← name? (others.takeWhile (· ≠ .equals))
    return .assignment name (← Value.ofTokens? ((tokens.dropWhile (· ≠ .equals)).drop 1))

/-- The number of brackets that are open behind a token. -/
def Token.depthBehind (depth : Nat) : Token → Nat
  | .openBracket | .openBrace => depth + 1
  | .closeBracket | .closeBrace => depth - 1
  | _ => depth

/-- The tokens of each line. Ends of lines inside brackets do not end a line. -/
def splitLines (depth : Nat) : List Token → List (List Token)
  | [] => [[]]
  | token :: rest =>
    let others := splitLines (token.depthBehind depth) rest
    if token = .lineEnd && depth = 0 then [] :: others
    else
      match others with
      | [] => [[token]]
      | line :: lines => (token :: line) :: lines

/-- The lines of a text that are not empty. -/
def lines? (text : String) : Option (List Line) := do
  let tokens ← tokens? text.toList
  ((splitLines 0 tokens).filter (!·.all Token.isBlanks)).mapM Line.ofTokens?

end ODataClient.Settings
