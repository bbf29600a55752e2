import ODataClient.Json.Basic

/-!
# Writing JSON

JSON texts with one element or member a line, indented by two blanks for each level. Only the
quotation mark, the backslash and control characters are escaped.
-/

namespace ODataClient.Json

/-- The escape of a control character by its code in two lower-case hexadecimal digits. -/
def escapeCode (c : Char) : String :=
  String.ofList ['\\', 'u', '0', '0', Nat.digitChar (c.toNat / 16), Nat.digitChar (c.toNat % 16)]

/-- A character as it stands in a quoted text. -/
def escapeChar (c : Char) : String :=
  if c = '"' then "\\\""
  else if c = '\\' then "\\\\"
  else if c = '\n' then "\\n"
  else if c = '\r' then "\\r"
  else if c = '\t' then "\\t"
  else if c = Char.ofNat 8 then "\\b"
  else if c = Char.ofNat 12 then "\\f"
  else if c.toNat < 32 then escapeCode c
  else String.singleton c

def quote (value : String) : String :=
  "\"" ++ value.toList.foldl (fun written c => written ++ escapeChar c) "" ++ "\""

def lineStart (level : Nat) : String :=
  "\n" ++ String.ofList (List.replicate (2 * level) ' ')

mutual

/-- The text of a value whose enclosing line is at `level`. -/
def renderAt (level : Nat) : Json → String
  | .null => "null"
  | .bool value => if value then "true" else "false"
  | .number literal => literal
  | .text value => quote value
  | .broken => "\"\\ud800\""
  | .array [] => "[]"
  | .array (first :: others) =>
    "[" ++ lineStart (level + 1) ++ renderAt (level + 1) first ++
      renderElements (level + 1) others ++ lineStart level ++ "]"
  | .object [] => "\x7b\x7d"
  | .object ((key, value) :: others) =>
    "\x7b" ++ lineStart (level + 1) ++ quote key ++ ": " ++ renderAt (level + 1) value ++
      renderMembers (level + 1) others ++ lineStart level ++ "\x7d"

/-- The elements after the first, each on a line of its own. -/
def renderElements (level : Nat) : List Json → String
  | [] => ""
  | value :: others =>
    "," ++ lineStart level ++ renderAt level value ++ renderElements level others

/-- The members after the first, each on a line of its own. -/
def renderMembers (level : Nat) : List (String × Json) → String
  | [] => ""
  | (key, value) :: others =>
    "," ++ lineStart level ++ quote key ++ ": " ++ renderAt level value ++
      renderMembers level others

end

def render (value : Json) : String := renderAt 0 value

end ODataClient.Json
