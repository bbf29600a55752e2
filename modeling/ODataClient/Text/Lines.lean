import ODataClient.Unicode.Property

/-!
# Lines of text

The lines that a text is made of, and the blanks at their ends.
-/

namespace ODataClient.Text

/-- The lines of a text, without what ends them: a line feed, alone or behind a carriage return. A
line feed at the very end begins no further line. -/
def lineChars : List Char → List (List Char)
  | [] => []
  | '\n' :: rest => [] :: lineChars rest
  | '\r' :: '\n' :: rest => [] :: lineChars rest
  | c :: rest =>
    match lineChars rest with
    | [] => [[c]]
    | line :: lines => (c :: line) :: lines

def lines (text : String) : List String :=
  (lineChars text.toList).map String.ofList

/-- The text without the blanks at its end. -/
def trimEnd (text : String) : String :=
  String.ofList (text.toList.reverse.dropWhile Unicode.isWhiteSpace).reverse

/-- Whether a text has nothing but blanks. -/
def isBlank (text : String) : Bool :=
  text.toList.all Unicode.isWhiteSpace

end ODataClient.Text
