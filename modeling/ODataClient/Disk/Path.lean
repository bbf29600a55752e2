/-!
# Paths

Paths as text, with slashes between their parts.
-/

namespace ODataClient.Path

/-- The pieces between slashes, of which there is always one more than there are slashes. -/
def splitChars : List Char → List (List Char)
  | [] => [[]]
  | c :: rest =>
    if c = '/' then [] :: splitChars rest
    else
      match splitChars rest with
      | [] => [[c]]
      | piece :: pieces => (c :: piece) :: pieces

/-- The pieces of a path between slashes, some of which may be empty. -/
def pieces (path : String) : List String :=
  (splitChars path.toList).map String.ofList

/-- The pieces of a path that lead somewhere. -/
def components (path : String) : List String :=
  (pieces path).filter (· ≠ "")

/-- Whether a piece of a path only leads to the same directory or one up. -/
def isStep (piece : String) : Bool := piece = "." || piece = ".."

def isAbsolute (path : String) : Bool :=
  path.toList.head? = some '/'

/-- Whether a path ends in a slash, so that only a directory can be meant. -/
def meansDirectory (path : String) : Bool :=
  path.toList.getLast? = some '/'

/-- A path taken from the directory that another leads to. -/
def join (base path : String) : String :=
  if isAbsolute path || base = "" then path
  else if meansDirectory base then base ++ path
  else base ++ "/" ++ path

/-- A path below a directory whose pieces are joined one by one, so that it never starts at the
root. -/
def below (base path : String) : String :=
  (pieces path).foldl join base

/-- The part of a path that only says where it starts, and the part behind it. -/
def splitStart (path : String) : List Char × List Char :=
  match path.toList with
  | '/' :: rest => (['/'], rest)
  | ['.'] => (['.'], [])
  | '.' :: '/' :: rest => (['.'], '/' :: rest)
  | characters => ([], characters)

/-- The characters of a path, last first, without slashes and steps to the same directory at the
end. -/
def trimmedFromEnd : List Char → List Char
  | '/' :: rest => trimmedFromEnd rest
  | ['.'] => []
  | '.' :: '/' :: rest => trimmedFromEnd rest
  | characters => characters

/-- The directory that a path leads into, or the empty path if it has one part. -/
def parent (path : String) : String :=
  let (start, rest) := splitStart path
  match trimmedFromEnd rest.reverse with
  | [] => ""
  | reversed =>
    String.ofList (start ++ (trimmedFromEnd (reversed.dropWhile (· ≠ '/'))).reverse)

/-- A path and the directories that lead to it, the path first. There are no more of them than
`count`. -/
def ancestorsUpTo (count : Nat) (path : String) : List String :=
  match count with
  | 0 => []
  | count + 1 => if path = "" then [] else path :: ancestorsUpTo count (parent path)

/-- A path and the directories that lead to it, the path first. -/
def ancestors (path : String) : List String :=
  ancestorsUpTo (path.length + 1) path

/-- The last part of a path, unless it is a step up or there is none. -/
def fileName? (path : String) : Option String :=
  let reversed := (trimmedFromEnd (splitStart path).2.reverse).takeWhile (· ≠ '/')
  if reversed = [] || reversed = ['.', '.'] then none else some (String.ofList reversed.reverse)

/-- The parts of a name before and after its last point. A name that starts with its only point has
no ending. -/
def splitEnding (name : String) : String × Option String :=
  let reversed := name.toList.reverse
  let ending := reversed.takeWhile (· ≠ '.')
  let stem := (reversed.drop (ending.length + 1)).reverse
  if stem.isEmpty then (name, none)
  else (String.ofList stem, some (String.ofList ending.reverse))

end ODataClient.Path
