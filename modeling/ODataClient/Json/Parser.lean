import ODataClient.Json.Basic
import ODataClient.Json.Token

/-!
# Reading JSON

The tokens of a JSON text are put together by a machine with a stack of the arrays and objects
that are still open.
-/

namespace ODataClient.Json

/-- The members of an object that is still open. A key that denotes no text is missing. -/
abbrev Members := List (Option String × Json)

def ofMembers (members : Members) : Json :=
  match members.mapM fun (key, value) => key.map fun key => (key, value) with
  | some members => .object members
  | none => .broken

/-- An array or object that is still open, its parts held in reverse. -/
inductive Frame where
  | array (elements : List Json)
  | object (members : Members) (key : Option String)

/-- The key of an object that a token is. -/
def Token.asKey? : Token → Option (Option String)
  | .text key => some (some key)
  | .brokenText => some none
  | _ => none

/-- What the machine has read and what may come next. -/
inductive Machine where
  /-- A value must come. -/
  | awaitValue (stack : List Frame)
  /-- An array has been opened: its first element or its end must come. -/
  | arrayOpened (stack : List Frame)
  /-- An object has been opened: its first key or its end must come. -/
  | objectOpened (stack : List Frame)
  /-- Another key must come. -/
  | awaitKey (members : Members) (stack : List Frame)
  /-- The colon after a key must come. -/
  | awaitColon (members : Members) (key : Option String) (stack : List Frame)
  /-- A value is complete. -/
  | complete (value : Json) (stack : List Frame)

namespace Machine

/-- Takes a token where a value must come. -/
def beginValue (stack : List Frame) : Token → Option Machine
  | .null => some (.complete .null stack)
  | .bool value => some (.complete (.bool value) stack)
  | .number literal => some (.complete (.number literal) stack)
  | .text value => some (.complete (.text value) stack)
  | .brokenText => some (.complete .broken stack)
  | .openBracket => some (.arrayOpened stack)
  | .openBrace => some (.objectOpened stack)
  | .closeBrace | .closeBracket | .colon | .comma => none

/-- Takes a token after a complete value. -/
def afterValue (value : Json) : List Frame → Token → Option Machine
  | .array elements :: stack, .comma => some (.awaitValue (.array (value :: elements) :: stack))
  | .array elements :: stack, .closeBracket =>
    some (.complete (.array (value :: elements).reverse) stack)
  | .object members key :: stack, .comma => some (.awaitKey ((key, value) :: members) stack)
  | .object members key :: stack, .closeBrace =>
    some (.complete (ofMembers ((key, value) :: members).reverse) stack)
  | _, _ => none

def step : Machine → Token → Option Machine
  | .awaitValue stack, token => beginValue stack token
  | .arrayOpened stack, .closeBracket => some (.complete (.array []) stack)
  | .arrayOpened stack, token => beginValue (.array [] :: stack) token
  | .objectOpened stack, .closeBrace => some (.complete (.object []) stack)
  | .objectOpened stack, token => token.asKey?.map fun key => .awaitColon [] key stack
  | .awaitKey members stack, token => token.asKey?.map fun key => .awaitColon members key stack
  | .awaitColon members key stack, .colon => some (.awaitValue (.object members key :: stack))
  | .complete value stack, token => afterValue value stack token
  | _, _ => none

end Machine

/-- The value that the tokens make, if they make one and nothing is left over. -/
def ofTokens? (tokens : List Token) : Option Json :=
  match tokens.foldlM Machine.step (.awaitValue []) with
  | some (.complete value []) => some value
  | _ => none

def parse? (text : String) : Option Json :=
  (tokens? text.toList).bind ofTokens?

end ODataClient.Json
