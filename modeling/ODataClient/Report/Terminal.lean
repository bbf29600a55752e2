import ODataClient.Unicode.Width

/-!
# Text on a terminal

Escape sequences in a text are commands to the terminal: they are not seen and take no columns.
-/

namespace ODataClient.Terminal

/-- The character that starts an escape sequence. -/
def escape : Char := '\x1b'

/-- The character that may end a command to the operating system. -/
def bell : Char := '\x07'

/-- Where in an escape sequence a text stands. -/
inductive Escape where
  | outside
  /-- Behind the character that starts it. -/
  | started
  /-- In a control sequence, which ends with a character from `@` to `~`. -/
  | control
  /-- In a command to the operating system, behind a character. -/
  | command (last : Char)
deriving DecidableEq, Repr

/-- Where a text stands behind one more character. -/
def Escape.next (state : Escape) (c : Char) : Escape :=
  match state with
  | .outside => if c = escape then .started else .outside
  | .started => if c = '[' then .control else if c = ']' then .command c else .outside
  | .control => if '@' ≤ c && c ≤ '~' then .outside else .control
  | .command last => if c = bell || (c = '\\' && last = escape) then .outside else .command c

/-- Whether a character is seen. -/
def Escape.shows (state : Escape) (c : Char) : Bool := state = .outside && c ≠ escape

/-- The characters of a text that are seen. -/
def visible (state : Escape) : List Char → List Char
  | [] => []
  | c :: rest =>
    let others := visible (state.next c) rest
    if state.shows c then c :: others else others

/-- The number of columns that a text takes. -/
def width (text : List Char) : Nat :=
  (visible .outside text).foldl (fun columns c => columns + Unicode.width c) 0

end ODataClient.Terminal
