/-!
# TypeScript expressions

The literals that generated code holds, as text.
-/

namespace ODataClient.TypeScript

/-- The characters that stand for a character inside single quotes. -/
def escapeChar (c : Char) : List Char :=
  if c = '\\' then ['\\', '\\'] else if c = '\'' then ['\\', '\''] else [c]

/-- The string literal for a text, in single quotes. -/
def stringLiteral (text : String) : String :=
  "'" ++ String.ofList (text.toList.flatMap escapeChar) ++ "'"

/-- Entries in brackets, each on a line of its own. -/
def bracketed (opening closing : String) (entries : List String) : String :=
  if entries.isEmpty then opening ++ closing
  else
    opening ++ "\n" ++ ",\n".intercalate (entries.map fun entry => "  " ++ entry) ++ "\n" ++ closing

def objectLiteral (entries : List String) : String :=
  bracketed "\x7b" "\x7d" entries

/-- The array literal with the given entries, each on a line of its own. -/
def listLiteral (entries : List String) : String :=
  bracketed "[" "]" entries

/-- The types one of which a value is of, each named once. -/
def unionType (types : List String) : String :=
  " | ".intercalate (types.foldl (fun seen type => if seen.contains type then seen
    else seen ++ [type]) [])

/-- The type of objects with any keys and values of the given type. -/
def dictionaryType (key value : String) : String :=
  "\x7b [" ++ key ++ ": string]: " ++ value ++ " \x7d"

end ODataClient.TypeScript
