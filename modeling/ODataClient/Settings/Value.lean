import ODataClient.Settings.Literal
import ODataClient.Settings.Token

/-!
# Values of settings

The values that can be assigned in a settings file: texts, truth values, numbers and dates, and
arrays and tables of values. They are read by a machine that takes one token after the other and
keeps the arrays and tables that are open.
-/

namespace ODataClient.Settings

/-- A value. Those of a table have names in parts. -/
inductive Value where
  | text (value : String)
  | bool (value : Bool)
  /-- A number or a date. -/
  | literal (word : String)
  | array (values : List Value)
  | table (entries : List (List String × Value))

/-- A value with its name in parts. -/
abbrev Entry := List String × Value

namespace Token

/-- The part of a name that a token is. -/
def namePart? : Token → Option String
  | .word letters => if letters.toList.all isNameLetter then some letters else none
  | .text value => some value
  | _ => none

end Token

/-- The value that words, points and blanks in a row are. -/
def wordValue? (letters : String) : Option Value :=
  if letters = "true" then some (.bool true)
  else if letters = "false" then some (.bool false)
  else if isLiteral letters then some (.literal letters)
  else none

/-- An array or table that is open, what it holds so far in reverse. -/
inductive Frame where
  | array (values : List Value)
  /-- A table with the name of the value that is being read. -/
  | table (entries : List Entry) (name : List String)

/-- What is read next. Names are held in reverse. -/
inductive Position where
  /-- The end of an array is possible as well. -/
  | value
  /-- Behind words, points and blanks that make a value, which points and words may continue. -/
  | word (letters : String)
  /-- Behind blanks there, which belong to the value if a word follows. -/
  | wordAndBlanks (letters blanks : String)
  | separator
  /-- The end of a table is possible as well. -/
  | name
  | namePart (name : List String)
  /-- A point or an equals sign. -/
  | nameEnd (name : List String)
  | equals (name : List String)
  | nothing (value : Value)

/-- The arrays and tables that are open, the innermost first, and what is read next. -/
structure ValueReader where
  frames : List Frame := []
  position : Position := .value

/-- Whether no name among the entries leads to or through the value of another. -/
def areDistinct : List Entry → Bool
  | [] => true
  | (name, _) :: entries =>
    (entries.all fun (other, _) => !(name.isPrefixOf other || other.isPrefixOf name)) &&
      areDistinct entries

namespace ValueReader

/-- How many arrays and tables may be open. -/
def maxDepth : Nat := 80

/-- How many parts a name may have. -/
def maxNameParts : Nat := 80

/-- Opens an array or table. -/
def enter (reader : ValueReader) (frame : Frame) (position : Position) : Option ValueReader :=
  if reader.frames.length < maxDepth then some ⟨frame :: reader.frames, position⟩ else none

/-- Puts a value where it belongs. -/
def put (frames : List Frame) (value : Value) : ValueReader :=
  match frames with
  | [] => ⟨[], .nothing value⟩
  | .array values :: outer => ⟨.array (value :: values) :: outer, .separator⟩
  | .table entries name :: outer => ⟨.table ((name, value) :: entries) [] :: outer, .separator⟩

def closeArray (reader : ValueReader) : Option ValueReader :=
  match reader.frames with
  | .array values :: outer => some (put outer (.array values.reverse))
  | _ => none

def closeTable (reader : ValueReader) : Option ValueReader :=
  match reader.frames with
  | .table entries _ :: outer =>
    if areDistinct entries then some (put outer (.table entries.reverse)) else none
  | _ => none

/-- What is read behind a comma. -/
def next (frames : List Frame) : Option ValueReader :=
  match frames with
  | [] => none
  | .array _ :: _ => some ⟨frames, .value⟩
  | .table .. :: _ => some ⟨frames, .name⟩

/-- Begins to read the value with a name. -/
def assign (frames : List Frame) (name : List String) : Option ValueReader :=
  match frames with
  | .table entries _ :: outer => some ⟨.table entries name.reverse :: outer, .value⟩
  | _ => none

/-- Takes a token where a value is read. -/
def startValue (reader : ValueReader) (token : Token) : Option ValueReader :=
  match token with
  | .openBracket => reader.enter (.array []) .value
  | .openBrace => reader.enter (.table [] []) .name
  | .closeBracket => reader.closeArray
  | .text value | .longText value => some (put reader.frames (.text value))
  | .word letters => some { reader with position := .word letters }
  | _ => none

/-- Takes a token that is no blanks and does not continue a word. An end of a line may stand between
any two in brackets, except in a name. -/
def step (reader : ValueReader) (token : Token) : Option ValueReader :=
  match reader.position, token with
  | .value, .lineEnd => if reader.frames.isEmpty then none else some reader
  | .separator, .lineEnd | .name, .lineEnd | .equals _, .lineEnd => some reader
  | .nameEnd name, .lineEnd => some { reader with position := .equals name }
  | .value, _ => reader.startValue token
  | .separator, .comma => next reader.frames
  | .separator, .closeBracket => reader.closeArray
  | .separator, .closeBrace | .name, .closeBrace => reader.closeTable
  | .name, _ =>
    token.namePart?.map fun part => { reader with position := .nameEnd [part] }
  | .namePart name, _ =>
    token.namePart?.map fun part => { reader with position := .nameEnd (part :: name) }
  | .nameEnd name, .point =>
    if name.length < maxNameParts then some { reader with position := .namePart name } else none
  | .nameEnd name, .equals | .equals name, .equals => assign reader.frames name
  | _, _ => none

/-- Ends the words, points and blanks that are read, if there are any. -/
def endWord (reader : ValueReader) : Option ValueReader :=
  match reader.position with
  | .word letters | .wordAndBlanks letters _ => (wordValue? letters).map (put reader.frames)
  | _ => some reader

/-- Takes a token. Only blanks between two words of a value have a meaning. -/
def read (reader : ValueReader) (token : Token) : Option ValueReader :=
  match reader.position, token with
  | .word letters, .word more => some { reader with position := .word (letters ++ more) }
  | .word letters, .point => some { reader with position := .word (letters ++ ".") }
  | .word letters, .blanks blanks => some { reader with position := .wordAndBlanks letters blanks }
  | .wordAndBlanks letters blanks, .word more =>
    some { reader with position := .word (letters ++ blanks ++ more) }
  | _, .blanks _ => some reader
  | _, _ => reader.endWord.bind (·.step token)

end ValueReader

/-- The value that the tokens behind an equals sign make. -/
def Value.ofTokens? (tokens : List Token) : Option Value :=
  match (tokens.foldlM ValueReader.read {}).bind ValueReader.endWord with
  | some ⟨_, .nothing value⟩ => some value
  | _ => none

end ODataClient.Settings
