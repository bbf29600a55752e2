/-!
# XML elements

A document as far as readers of it can tell: elements with their tags, stretches of text, and
references to entities and characters. Comments and processing instructions are not kept.
-/

namespace ODataClient.Xml

/-- An attribute, its value as it stands in the document. -/
structure Attribute where
  name : List Char
  value : List Char
deriving DecidableEq, Repr

/-- What the start of an element says. -/
structure Tag where
  name : List Char
  /-- The attributes in order, with `none` where what stands there is no attribute or one whose
  name was given before. -/
  attributes : List (Option Attribute)
  /-- The prefixes that are bound to namespaces, in order. -/
  bindings : List (List Char × List Char)
deriving DecidableEq, Repr

/-- What an element holds. -/
inductive Node where
  | element (tag : Tag) (children : List Node)
  /-- A stretch of text or of character data. -/
  | text (characters : List Char)
  /-- A reference, given by what is between `&` and `;`. -/
  | reference (name : List Char)
  | documentType

/-- The blanks of markup. -/
def isBlank (c : Char) : Bool :=
  c == ' ' || c == '\t' || c == '\n' || c == '\r'

/-- The part of a qualified name before its first colon, if there is one, and the part after it. -/
def splitName (name : List Char) : Option (List Char) × List Char :=
  match name.dropWhile (· != ':') with
  | [] => (none, name)
  | _ :: localPart => (some (name.takeWhile (· != ':')), localPart)

/-- The part of a qualified name after its first colon, or the whole name. -/
def localName (name : List Char) : List Char := (splitName name).2

/-- The name by which an attribute is known: the local name, but the whole name for namespace
bindings and for attributes that are bound to the `xml` prefix. -/
def attributeName (name : List Char) : List Char :=
  match splitName name with
  | (some mark, localPart) =>
    if mark = ['x', 'm', 'l'] ∨ mark = ['x', 'm', 'l', 'n', 's'] then name else localPart
  | (none, _) => name

/-- A text in which every end of a line is a line feed. Ends of lines are line feeds, next lines
and line separators, and carriage returns with or without one of the first two behind them. -/
def withLineFeeds : List Char → List Char
  | '\r' :: '\n' :: rest | '\r' :: '\x85' :: rest => '\n' :: withLineFeeds rest
  | '\r' :: rest | '\x85' :: rest | '\u2028' :: rest => '\n' :: withLineFeeds rest
  | c :: rest => c :: withLineFeeds rest
  | [] => []

end ODataClient.Xml
