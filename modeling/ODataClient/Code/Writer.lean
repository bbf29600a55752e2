import ODataClient.Code.Fragment

/-!
# Writing code

A writer puts lines behind one another, each indented by the level that it stands at.
-/

namespace ODataClient.Code

/-- What one level of indentation is made of. -/
inductive Indentation where
  | spaces (width : Nat)
  | tab
deriving DecidableEq, Repr

def Indentation.unit : Indentation → String
  | spaces width => String.ofList (List.replicate width ' ')
  | tab => "\t"

/-- Generated code is indented by two spaces. -/
def Indentation.standard : Indentation := spaces 2

/-- Text that is written line by line. -/
structure Writer where
  unit : String
  level : Nat
  text : String
deriving DecidableEq, Repr

namespace Writer

/-- A writer at the outermost level, with nothing written. -/
def empty (indentation : Indentation) : Writer :=
  { unit := indentation.unit, level := 0, text := "" }

variable (writer : Writer)

/-- The indentation of a line at the level that the writer stands at. -/
def margin : String :=
  String.join (List.replicate writer.level writer.unit)

def line (text : String) : Writer :=
  { writer with text := writer.text ++ writer.margin ++ text ++ "\n" }

def blank : Writer :=
  { writer with text := writer.text ++ "\n" }

def indent : Writer :=
  { writer with level := writer.level + 1 }

/-- Goes back a level, or stays at the outermost. -/
def dedent : Writer :=
  { writer with level := writer.level - 1 }

/-- A line inside a documentation comment. -/
def docLine (text : String) : String :=
  let trimmed := Text.trimEnd text
  if trimmed = "" then " *" else " * " ++ trimmed

/-- Writes a documentation comment, unless it has no lines. -/
def doc (lines : List String) : Writer :=
  if lines.isEmpty then writer
  else (lines.foldl (fun writer text => writer.line (docLine text)) (writer.line "/**")).line " */"

mutual

def put (writer : Writer) : Fragment → Writer
  | .line text => writer.line text
  | .blank => writer.blank
  | .block header body close =>
    let outer := ((writer.line header).indent.putAll body).dedent
    match close with
    | some text => outer.line text
    | none => outer
  | .indented body => (writer.indent.putAll body).dedent
  | .sequence body => writer.putAll body
  | .doc lines => writer.doc lines

def putAll (writer : Writer) : List Fragment → Writer
  | [] => writer
  | fragment :: fragments => (writer.put fragment).putAll fragments

end

end Writer

def Fragment.render (fragments : List Fragment) (indentation : Indentation) : String :=
  ((Writer.empty indentation).putAll fragments).text

end ODataClient.Code
