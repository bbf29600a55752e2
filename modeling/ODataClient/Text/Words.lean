import ODataClient.Unicode.CaseMapping

/-!
# Words of an identifier

Schema names arrive in every style at once, so every casing goes through the words of a name. A
word is a run of letters and numbers, cut further where the case of neighbours says that another
word begins. Nothing but the characters that are neither letters nor numbers is lost.
-/

namespace ODataClient.Text

open Unicode

/-- Whether a word begins at `current`, right after `previous` and before `next`: at a capital
after a small letter or an ASCII digit, and at the last capital of a row of capitals that a small
letter follows. -/
def beginsWord (previous current : Char) (next : Option Char) : Bool :=
  isUppercase current &&
    (isLowercase previous || previous.isDigit || (isUppercase previous && next.any isLowercase))

/-- Whether the word that holds `c` goes on with the first character of `rest`. -/
def continuesInto (c : Char) : List Char → Bool
  | [] => false
  | following :: rest => isAlphanumeric following && !beginsWord c following rest.head?

/-- Puts a character in front of the first word. -/
def extendFirst (c : Char) : List (List Char) → List (List Char)
  | [] => [[c]]
  | word :: words => (c :: word) :: words

/-- The words of a text, in order. -/
def splitWords : List Char → List (List Char)
  | [] => []
  | c :: rest =>
    if isAlphanumeric c then
      if continuesInto c rest then extendFirst c (splitWords rest) else [c] :: splitWords rest
    else splitWords rest

/-- The word with a capital first character and small ones after it. -/
def capitalize : List Char → List Char
  | [] => []
  | c :: rest => toUpper c ++ rest.flatMap toLower

def words (name : String) : List String :=
  (splitWords name.toList).map String.ofList

/-- Every word capitalized, without separators. -/
def pascalCase (name : String) : String :=
  String.ofList ((splitWords name.toList).flatMap capitalize)

/-- The first word in lower case and the others capitalized, without separators. -/
def camelCase (name : String) : String :=
  match splitWords name.toList with
  | [] => ""
  | first :: others => String.ofList (lowercase first ++ others.flatMap capitalize)

/-- Every word in upper case, joined by underscores. -/
def upperSnakeCase (name : String) : String :=
  "_".intercalate ((splitWords name.toList).map fun word => String.ofList (uppercase word))

/-- Every word in lower case, joined by hyphens. -/
def kebabCase (name : String) : String :=
  "-".intercalate ((splitWords name.toList).map fun word => String.ofList (lowercase word))

/-- The text with its first character in upper case and the rest as it is. -/
def upperFirst (text : String) : String :=
  match text.toList with
  | [] => ""
  | c :: rest => String.ofList (toUpper c ++ rest)

end ODataClient.Text
