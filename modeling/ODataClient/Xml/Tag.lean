import ODataClient.Xml.Basic

/-!
# Start tags

The attributes of a start tag, and the prefixes that it binds to namespaces. An attribute that is
malformed does not keep those behind it from being read.
-/

namespace ODataClient.Xml

/-- Where the reading of attributes stands. Characters are held in reverse. -/
inductive AttributeMode where
  | between
  | inName (name : List Char)
  | afterName (name : List Char)
  | beforeValue (name : List Char)
  | inValue (name : List Char) (quote : Char) (value : List Char)
  /-- Behind a fault, up to the next blank. -/
  | skipping

/-- The attributes and faults met so far, in reverse, with the names of attributes and where the
reading stands. -/
structure AttributeReader where
  done : List (Option Attribute) := []
  names : List (List Char) := []
  mode : AttributeMode := .between

namespace AttributeReader

def fault (reader : AttributeReader) (mode : AttributeMode) : AttributeReader :=
  { reader with done := none :: reader.done, mode }

/-- The equals sign behind a name. If names must differ, one that was given before is a fault. -/
def endName (mustDiffer : Bool) (reader : AttributeReader) (name : List Char) : AttributeReader :=
  if mustDiffer && reader.names.contains name then reader.fault .skipping
  else { reader with names := name :: reader.names, mode := .beforeValue name }

def step (mustDiffer : Bool) (reader : AttributeReader) (c : Char) : AttributeReader :=
  match reader.mode with
  | .between => { reader with mode := if isBlank c then .between else .inName [c] }
  | .inName name =>
    if c = '=' then reader.endName mustDiffer name
    else { reader with mode := if isBlank c then .afterName name else .inName (c :: name) }
  | .afterName name =>
    if c = '=' then reader.endName mustDiffer name
    else if isBlank c then reader
    else reader.fault (.inName [c])
  | .beforeValue name =>
    if c = '"' ∨ c = '\'' then { reader with mode := .inValue name c [] }
    else if isBlank c then reader
    else reader.fault .skipping
  | .inValue name quote value =>
    if c = quote then
      let read : Attribute := ⟨name.reverse, value.reverse⟩
      { reader with done := some read :: reader.done, mode := .between }
    else { reader with mode := .inValue name quote (c :: value) }
  | .skipping => { reader with mode := if isBlank c then .between else .skipping }

/-- All attributes and faults in order, at the end of the tag. -/
def finish (reader : AttributeReader) : List (Option Attribute) :=
  match reader.mode with
  | .between | .skipping => reader.done.reverse
  | _ => (none :: reader.done).reverse

end AttributeReader

/-- The attributes and faults in a text. -/
def readAttributes (mustDiffer : Bool) (text : List Char) : List (Option Attribute) :=
  (text.foldl (AttributeReader.step mustDiffer) {}).finish

/-- The prefix and namespace that an attribute binds. -/
def binding? (attr : Attribute) : Option (List Char × List Char) :=
  match splitName attr.name with
  | (some mark, bound) =>
    if mark = ['x', 'm', 'l', 'n', 's'] then some (bound, attr.value) else none
  | (none, _) => none

/-- The tag that a text between brackets is. Prefixes are bound up to the first fault, and one name
may be given twice for that. -/
def Tag.ofText (text : List Char) : Tag :=
  let name := text.takeWhile (!isBlank ·)
  let behind := text.drop name.length
  { name
    attributes := readAttributes true behind
    bindings := ((readAttributes false behind).takeWhile Option.isSome).filterMap fun attr? =>
      attr?.bind binding? }

end ODataClient.Xml
