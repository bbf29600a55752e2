import ODataClient.Xml.Reference
import ODataClient.Xml.Tag

/-!
# Reading XML

A document is read character by character into the tree of its root element. The reader knows the
elements that are open and the markup that it is in. What follows the end of the root is not looked
at.
-/

namespace ODataClient.Xml

/-- A document: what stands in front of its root element, and the root. -/
structure Document where
  prolog : List Node
  root : Tag
  children : List Node

/-- An element that is still open, what it holds so far in reverse. -/
structure OpenElement where
  tag : Tag
  children : List Node

/-- The nodes read so far, in reverse: those in front of the root, and the elements that are open,
the innermost first. -/
structure OpenNodes where
  prolog : List Node := []
  stack : List OpenElement := []

/-- The markup that the reader is in. Characters are held in reverse. -/
inductive Markup where
  | text (characters : List Char)
  /-- After an `&`. -/
  | reference (name : List Char)
  /-- After a `<`. -/
  | opened
  /-- In a start or end tag, possibly in a quoted value. -/
  | tag (text : List Char) (quote : Option Char)
  /-- In a processing instruction or declaration, with its last character. -/
  | instruction (isFirst : Bool) (last : Char)
  /-- After `<!`, before it is known what begins. -/
  | bang (text : List Char)
  /-- In a comment, after a number of hyphens. -/
  | comment (hyphens : Nat)
  /-- In character data, after a number of closing brackets. -/
  | characterData (characters : List Char) (brackets : Nat)
  /-- In a document type declaration, with its number of open brackets. -/
  | documentType (isNamed : Bool) (depth : Nat)

/-- The reader: in the middle of a document, or past the end of its root. -/
inductive Reader where
  | reading (nodes : OpenNodes) (markup : Markup)
  | finished (document : Document)

namespace OpenNodes

variable (nodes : OpenNodes)

/-- Puts a node into the innermost open element, or in front of the root. -/
def add (node : Node) : OpenNodes :=
  match nodes.stack with
  | [] => { nodes with prolog := node :: nodes.prolog }
  | innermost :: outer =>
    { nodes with stack := { innermost with children := node :: innermost.children } :: outer }

/-- Adds a stretch of text, given in reverse. There is none between two markups that touch. -/
def addText (characters : List Char) : OpenNodes :=
  if characters.isEmpty then nodes else nodes.add (.text (withLineFeeds characters.reverse))

/-- Ends an element. Without one around it, it is the root. -/
def addElement (tag : Tag) (children : List Node) : Reader :=
  if nodes.stack.isEmpty then .finished ⟨nodes.prolog.reverse, tag, children⟩
  else .reading (nodes.add (.element tag children)) (.text [])

end OpenNodes

namespace Reader

/-- The name in an end tag. Blanks behind it do not count, unless there is nothing else. -/
def closingName (text : List Char) : List Char :=
  match text.reverse.dropWhile isBlank with
  | [] => text
  | reversed => reversed.reverse

/-- The text between the brackets of a tag is complete. -/
def closeTag (nodes : OpenNodes) (text : List Char) : Option Reader :=
  match text with
  | '/' :: closing =>
    match nodes.stack with
    | [] => none
    | innermost :: outer =>
      if innermost.tag.name = closingName closing then
        some ({ nodes with stack := outer }.addElement innermost.tag innermost.children.reverse)
      else none
  | _ =>
    if text.getLast? == some '/' then some (nodes.addElement (.ofText text.dropLast) [])
    else
      let opened : OpenElement := { tag := .ofText text, children := [] }
      some (.reading { nodes with stack := opened :: nodes.stack } (.text []))

/-- Markup after `<!`, by what stands there so far. Letters of a document type may be of either
case. -/
def openBang (nodes : OpenNodes) (text : List Char) : Option Reader :=
  let upper := text.map Char.toUpper
  if text = "--".toList then some (.reading nodes (.comment 0))
  else if text = "[CDATA[".toList then some (.reading nodes (.characterData [] 0))
  else if upper = "DOCTYPE".toList then some (.reading nodes (.documentType false 0))
  else if text.isPrefixOf "--".toList || text.isPrefixOf "[CDATA[".toList ||
      upper.isPrefixOf "DOCTYPE".toList then
    some (.reading nodes (.bang text.reverse))
  else none

def step : Reader → Char → Option Reader
  | .finished document, _ => some (.finished document)
  | .reading nodes markup, c =>
    match markup with
    | .text characters =>
      if c = '<' then some (.reading (nodes.addText characters) .opened)
      else if c = '&' then some (.reading (nodes.addText characters) (.reference []))
      else some (.reading nodes (.text (c :: characters)))
    | .reference name =>
      if c = ';' then some (.reading (nodes.add (.reference name.reverse)) (.text []))
      else if c = '&' ∨ c = '<' then none
      else some (.reading nodes (.reference (c :: name)))
    | .opened =>
      if c = '!' then some (.reading nodes (.bang []))
      else if c = '?' then some (.reading nodes (.instruction true '?'))
      else if c = '>' then closeTag nodes []
      else some (.reading nodes (.tag [c] (if c = '"' ∨ c = '\'' then some c else none)))
    | .tag text quote =>
      match quote with
      | some mark => some (.reading nodes (.tag (c :: text) (if c = mark then none else quote)))
      | none =>
        if c = '>' then closeTag nodes text.reverse
        else if c = '"' ∨ c = '\'' then some (.reading nodes (.tag (c :: text) (some c)))
        else some (.reading nodes (.tag (c :: text) none))
    | .instruction isFirst last =>
      if c = '>' ∧ last = '?' then
        if isFirst then none else some (.reading nodes (.text []))
      else some (.reading nodes (.instruction false c))
    | .bang text => openBang nodes (text.reverse ++ [c])
    | .comment hyphens =>
      if c = '-' then some (.reading nodes (.comment (hyphens + 1)))
      else if c = '>' ∧ 2 ≤ hyphens then some (.reading nodes (.text []))
      else some (.reading nodes (.comment 0))
    | .characterData characters brackets =>
      if c = ']' then some (.reading nodes (.characterData (c :: characters) (brackets + 1)))
      else if c = '>' ∧ 2 ≤ brackets then
        let node : Node := .text (withLineFeeds (characters.drop 2).reverse)
        some (.reading (nodes.add node) (.text []))
      else some (.reading nodes (.characterData (c :: characters) 0))
    | .documentType isNamed depth =>
      if c = '<' then some (.reading nodes (.documentType true (depth + 1)))
      else if c = '>' then
        match depth with
        | 0 => if isNamed then some (.reading (nodes.add .documentType) (.text [])) else none
        | depth + 1 => some (.reading nodes (.documentType true depth))
      else some (.reading nodes (.documentType (isNamed || !isBlank c) depth))

end Reader

/-- The document that a text is. A byte order mark in front of it does not count. -/
def Document.ofText? (text : String) : Option Document :=
  let characters := match text.toList with
    | '\ufeff' :: rest => rest
    | characters => characters
  match characters.foldlM Reader.step (.reading {} (.text [])) with
  | some (.finished document) => some document
  | _ => none

end ODataClient.Xml
