import ODataClient.Text.Span

/-!
# Sources of a schema

The documents that a schema is read from, kept in order to say where a fault stands. A place is
found again by searching the documents for what is written there.
-/

namespace ODataClient

/-- A metadata document. -/
structure Source where
  /-- The name of the document in messages. -/
  name : String
  text : String
deriving DecidableEq, Repr

/-- Where a fault stands: a document and, if the place was found, the bytes of its text. -/
structure Site where
  source : Source
  span : Option Text.Span
deriving DecidableEq, Repr

namespace Source

/-- The place where a needle first occurs in a document. -/
def find? (source : Source) (needle : String) : Option Site :=
  (Text.firstSpan? needle.toList source.text.toList).map fun span => { source, span := some span }

/-- The place where a needle first occurs in the documents, or else the first document. -/
def locate (sources : List Source) (needle : String) : Site :=
  match sources.findSome? (find? · needle) with
  | some site => site
  | none => { source := sources.head?.getD { name := "<empty>", text := "" }, span := none }

/-- What is written where a construct gets its name. -/
def naming (name : String) : String := "Name=\"" ++ name ++ "\""

/-- What is written where a text stands as the value of an attribute. -/
def quoting (text : String) : String := "\"" ++ text ++ "\""

/-- The place where a name is given a second time, in the first document that gives it. It is
searched for from the end of the first one on. -/
def locateSecond (sources : List Source) (name : String) : Site :=
  let site := locate sources (naming name)
  let span := site.span.bind fun first =>
    Text.spanFrom? first.stop (naming name).toList site.source.text.toList
  { site with span }

end Source

end ODataClient
