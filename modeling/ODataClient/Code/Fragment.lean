import ODataClient.Text.Lines

/-!
# Fragments of code

Code as a tree: lines, blank lines, comments, and blocks whose bodies are indented. How far a line
is indented is settled only when the tree is written.
-/

namespace ODataClient.Code

/-- A piece of code. -/
inductive Fragment where
  | line (text : String)
  /-- An empty line, which is never indented. -/
  | blank
  /-- A header, an indented body, and a closing line if there is one. -/
  | block (header : String) (body : List Fragment) (close : Option String)
  | indented (body : List Fragment)
  | sequence (body : List Fragment)
  /-- A documentation comment. One without lines is left out. -/
  | doc (lines : List String)
deriving Inhabited, Repr

namespace Fragment

/-- A block that ends in a line of its own. -/
def closed (header : String) (body : List Fragment) (close : String) : Fragment :=
  block header body (some close)

/-- A documentation comment with the lines of a text. -/
def docText (text : String) : Fragment :=
  doc (Text.lines text)

mutual

/-- Whether a fragment counts as empty: a comment without lines, or a sequence of such
fragments. -/
def isEmpty : Fragment → Bool
  | doc lines => lines.isEmpty
  | sequence body => allEmpty body
  | line _ | blank | block .. | indented _ => false

def allEmpty : List Fragment → Bool
  | [] => true
  | fragment :: fragments => isEmpty fragment && allEmpty fragments

end

/-- Adds a group behind the fragments so far, with a blank line between them. A group of empty
fragments adds nothing. -/
def appendGroup (soFar group : List Fragment) : List Fragment :=
  if allEmpty group then soFar
  else if soFar.isEmpty then group
  else soFar ++ blank :: group

/-- The groups in a row, with a blank line between any two. Groups of empty fragments are left
out. -/
def separated (groups : List (List Fragment)) : List Fragment :=
  groups.foldl appendGroup []

end Fragment

end ODataClient.Code
