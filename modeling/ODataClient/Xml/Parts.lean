import ODataClient.Xml.Reader
import ODataClient.Xml.Scopes

/-!
# Parts of an element

An element whose kind is known has known attributes and known elements inside; everything else is
passed over. An attribute may also be given as an element, whose name then begins with an `@`.

The elements of a name that may be repeated are read together as soon as the first of them is met.
Whatever stands between them and behind them is postponed until the end of the element around them,
where the scopes are those of what comes next. So the postponed elements are all read in the same
scopes, while before the first repeated element the scopes change from place to place.
-/

namespace ODataClient.Xml

/-- What an element of a kind may hold. -/
structure Shape (κ : Type) where
  /-- The attributes by their names. -/
  attributes : List String := []
  /-- The elements that may occur any number of times, with their kinds. -/
  repeated : List (String × κ) := []
  /-- The elements that occur at most once, with their kinds. -/
  optional : List (String × κ) := []

/-- The kinds of elements that a reader knows. -/
abbrev Grammar (κ : Type) := κ → Shape κ

/-- What an element with a name is to the element around it. -/
inductive Role (κ : Type) where
  | unknown
  /-- It gives an attribute. -/
  | attr (name : String)
  | repeated (kind : κ)
  | optional (kind : κ)

/-- The role of an element inside one of a known shape. -/
def Shape.role {κ : Type} (shape : Shape κ) (tag : Tag) : Role κ :=
  let name := String.ofList (localName tag.name)
  match shape.attributes.find? fun known => "@" ++ known = name with
  | some known => .attr known
  | none =>
    match shape.repeated.lookup name, shape.optional.lookup name with
    | some kind, _ => .repeated kind
    | none, some kind => .optional kind
    | none, none => .unknown

/-- The known attributes of an element, their references resolved, and its known elements in
order. -/
inductive Parts where
  | mk (attributes : List (String × String)) (elements : List (String × Parts))

namespace Parts

def attribute? : Parts → String → Option String
  | .mk attributes _, name => attributes.lookup name

/-- The elements of a name. -/
def all : Parts → String → List Parts
  | .mk _ elements, name => (elements.filter (·.1 = name)).map Prod.snd

end Parts

/-- The parts of an element met so far. -/
structure Draft where
  /-- The names of the parts that may not be given again. -/
  taken : List String := []
  attributes : List (String × String) := []
  /-- The elements with their qualified names, in reverse. -/
  elements : List (List Char × Parts) := []

namespace Draft

/-- Notes that a part is given that may be given once. -/
def take? (draft : Draft) (name : String) : Option Draft :=
  if draft.taken.contains name then none else some { draft with taken := name :: draft.taken }

def addAttribute? (draft : Draft) (name : String) (value : List Char) : Option Draft :=
  (draft.take? ("@" ++ name)).map fun draft =>
    { draft with attributes := (name, String.ofList value) :: draft.attributes }

def addElement (draft : Draft) (tag : Tag) (parts : Parts) : Draft :=
  { draft with elements := (tag.name, parts) :: draft.elements }

/-- Adds an element that may be repeated. All those of one name have the same prefix. -/
def addRepeated? (draft : Draft) (tag : Tag) (parts : Parts) : Option Draft :=
  if draft.elements.all fun (name, _) => localName name ≠ localName tag.name || name = tag.name then
    some (draft.addElement tag parts)
  else none

/-- The parts, when all have been met. -/
def finish (draft : Draft) : Parts :=
  .mk draft.attributes
    (draft.elements.reverse.map fun (name, parts) => (String.ofList (localName name), parts))

/-- The parts given by the attributes of a tag. None of them is given twice, under whatever
prefixes, and no attribute is malformed, known or not. -/
def ofTag? (names : List String) (tag : Tag) : Option Draft := do
  let attributes ← tag.attributes.mapM id
  attributes.foldlM (fun draft attr => do
    let name := String.ofList (attributeName attr.name)
    if names.contains name then draft.addAttribute? name (← unescape? attr.value) else draft) {}

end Draft

/-- The text that nodes make, which must not be elements. -/
def textOf? : List Node → Option (List Char)
  | [] => some []
  | .text characters :: nodes => (textOf? nodes).map (characters ++ ·)
  | .reference name :: nodes => do return (← resolve? name) :: (← textOf? nodes)
  | .documentType :: nodes => textOf? nodes
  | .element .. :: _ => none

mutual

/-- Whether all references in a node resolve and all its tags bind prefixes as they may. -/
def Node.isSound : Node → Bool
  | .element tag children => tag.isLawful && allSound children
  | .reference name => (resolve? name).isSome
  | .text _ | .documentType => true

def allSound : List Node → Bool
  | [] => true
  | node :: nodes => node.isSound && allSound nodes

end

/-- Whether an element can be skipped. Of what it holds, only a first element is looked at. -/
def canSkip (tag : Tag) (children : List Node) : Bool :=
  tag.isLawful &&
    match children with
    | .element first _ :: _ => first.isLawful
    | _ => true

/-- The scopes behind an element that is skipped. Its scope stays open, as does that of its first
element. -/
def Scopes.skip (scopes : Scopes) (tag : Tag) (children : List Node) : Scopes :=
  let inside := scopes.enter tag
  if children.isEmpty then inside.leave else inside.ahead children

section Postponed

variable {κ : Type} (grammar : Grammar κ) (scopes : Scopes)

mutual

/-- Adds what a postponed node gives to the parts of an element. -/
def Node.postponedPart? (kind : κ) (tag : Tag) (draft : Draft) : Node → Option Draft
  | .element inner children =>
    let isNil := scopes.isNil tag || scopes.isNil inner
    match (grammar kind).role inner with
    | .unknown => some draft
    | .attr name =>
      if isNil then draft.take? ("@" ++ name)
      else do draft.addAttribute? name (← textOf? children)
    | .repeated innerKind => do
      let start ← Draft.ofTag? (grammar innerKind).attributes inner
      draft.addRepeated? inner (← postponedParts? innerKind inner start children).finish
    | .optional innerKind => do
      let draft ← draft.take? (String.ofList (localName inner.name))
      if isNil then return draft
      let start ← Draft.ofTag? (grammar innerKind).attributes inner
      return draft.addElement inner (← postponedParts? innerKind inner start children).finish
  | .text _ | .reference _ | .documentType => some draft

/-- Adds what postponed nodes give to the parts of an element. -/
def postponedParts? (kind : κ) (tag : Tag) (draft : Draft) : List Node → Option Draft
  | [] => some draft
  | node :: nodes => do
    postponedParts? kind tag (← node.postponedPart? kind tag draft) nodes

end

end Postponed

/-- The reading of what an element holds. -/
structure Reading where
  draft : Draft
  scopes : Scopes
  /-- The qualified name of the repeated elements that are being read together. -/
  list : Option (List Char) := none
  /-- What is read behind them, in reverse. -/
  postponed : List Node := []

namespace Reading

def postpone (reading : Reading) (node : Node) : Reading :=
  { reading with postponed := node :: reading.postponed }

/-- The parts of an element and the scopes behind it, when all that it holds has been read. The
nodes behind it are given. -/
def finish? {κ : Type} (grammar : Grammar κ) (kind : κ) (tag : Tag) (reading : Reading)
    (behind : List Node) : Option (Parts × Scopes) := do
  let outside := reading.scopes.leave
  let draft ← postponedParts? grammar (outside.ahead behind) kind tag reading.draft
    reading.postponed.reverse
  return (draft.finish, outside)

end Reading

section Parts

variable {κ : Type} (grammar : Grammar κ)

mutual

/-- Reads a node inside an element of a kind. The nodes behind it are given. -/
def Node.read? (kind : κ) (tag : Tag) (behind : List Node) (reading : Reading) :
    Node → Option Reading
  | .text _ | .documentType => some reading
  | .reference name => (resolve? name).map fun _ => reading
  | node@(.element inner children) => do
    let inside := reading.scopes.enter inner
    let ahead := inside.ahead children
    let isNil := ahead.isNil tag || ahead.isNil inner
    let skipped := { reading with scopes := reading.scopes.skip inner children }
    if reading.list.any (· ≠ inner.name) then
      guard node.isSound
      return reading.postpone node
    guard inner.isLawful
    match (grammar kind).role inner with
    | .unknown =>
      guard (canSkip inner children)
      return skipped
    | .attr name =>
      if isNil then
        guard (canSkip inner children)
        return { skipped with draft := ← reading.draft.take? ("@" ++ name) }
      let draft ← reading.draft.addAttribute? name (← textOf? children)
      return { reading with draft, scopes := inside.leave }
    | .repeated innerKind =>
      let start ← Draft.ofTag? (grammar innerKind).attributes inner
      let inner' ← readAll? innerKind inner { draft := start, scopes := inside } children
      let (parts, scopes) ← inner'.finish? grammar innerKind inner behind
      let draft ← reading.draft.addRepeated? inner parts
      return { reading with draft, scopes, list := some inner.name }
    | .optional innerKind =>
      let draft ← reading.draft.take? (String.ofList (localName inner.name))
      if isNil then
        guard (canSkip inner children)
        return { skipped with draft }
      let start ← Draft.ofTag? (grammar innerKind).attributes inner
      let inner' ← readAll? innerKind inner { draft := start, scopes := inside } children
      let (parts, scopes) ← inner'.finish? grammar innerKind inner behind
      return { reading with draft := draft.addElement inner parts, scopes }

/-- Reads nodes inside an element of a kind. -/
def readAll? (kind : κ) (tag : Tag) (reading : Reading) : List Node → Option Reading
  | [] => some reading
  | node :: nodes => do readAll? kind tag (← node.read? kind tag nodes reading) nodes

end

/-- The parts of the root of a document, which is of the given kind whatever its name. Only blanks
may stand in front of it. -/
def Document.parts? (kind : κ) (document : Document) : Option Parts := do
  let prolog ← textOf? document.prolog
  guard (prolog.all isBlank && document.root.isLawful)
  let start ← Draft.ofTag? (grammar kind).attributes document.root
  let reading ← readAll? grammar kind document.root
    { draft := start, scopes := ({} : Scopes).enter document.root } document.children
  let (parts, _) ← reading.finish? grammar kind document.root []
  return parts

end Parts

end ODataClient.Xml
