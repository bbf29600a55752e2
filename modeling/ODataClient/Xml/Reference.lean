/-!
# References to characters

The references by which a document writes characters that markup would take for its own: the five
named entities, and characters by number.
-/

namespace ODataClient.Xml

/-- The value of a digit. -/
def digit? (base : Nat) (c : Char) : Option Nat :=
  let value :=
    if c.isDigit then c.toNat - '0'.toNat
    else if 'a' ≤ c ∧ c ≤ 'f' then c.toNat - 'a'.toNat + 10
    else if 'A' ≤ c ∧ c ≤ 'F' then c.toNat - 'A'.toNat + 10
    else base
  if value < base then some value else none

/-- The number that the digits write. There is at least one. -/
def number? (base : Nat) (digits : List Char) : Option Nat :=
  if digits = [] then none
  else digits.foldlM (fun value c => (digit? base c).map (value * base + ·)) 0

/-- The character with a number. Zero, the surrogates and numbers out of range have none. -/
def numbered? (code : Nat) : Option Char :=
  if code = 0 ∨ (0xD800 ≤ code ∧ code < 0xE000) ∨ 0x110000 ≤ code then none
  else some (Char.ofNat code)

/-- The character that a reference stands for, given by what is between `&` and `;`. -/
def resolve? : List Char → Option Char
  | '#' :: 'x' :: digits => (number? 16 digits).bind numbered?
  | '#' :: digits => (number? 10 digits).bind numbered?
  | name =>
    if name = "lt".toList then some '<'
    else if name = "gt".toList then some '>'
    else if name = "amp".toList then some '&'
    else if name = "quot".toList then some '"'
    else if name = "apos".toList then some '\''
    else none

/-- A text with its references resolved so far, in reverse, and the name of a reference that is
being read, in reverse. -/
structure Unescaping where
  done : List Char
  reference : Option (List Char)

def Unescaping.step (state : Unescaping) (c : Char) : Option Unescaping :=
  match state.reference with
  | none =>
    if c = '&' then some { state with reference := some [] }
    else some { state with done := c :: state.done }
  | some name =>
    if c = ';' then
      (resolve? name.reverse).map fun meant => { done := meant :: state.done, reference := none }
    else if c = '&' then none
    else some { state with reference := some (c :: name) }

/-- The text with all its references resolved. -/
def unescape? (text : List Char) : Option (List Char) := do
  let state ← text.foldlM Unescaping.step { done := [], reference := none }
  if state.reference.isSome then none else some state.done.reverse

end ODataClient.Xml
