import ODataClient.Dictionary

/-!
# JSON values

The values that JSON texts denote, and their reading as records with known fields and as
dictionaries.
-/

namespace ODataClient

inductive Json where
  | null
  | bool (value : Bool)
  /-- A number, kept as its literal. -/
  | number (literal : String)
  | text (value : String)
  /-- A string with an escaped half of a surrogate pair, or an object with such a key. It can be
  passed over but denotes nothing. -/
  | broken
  | array (elements : List Json)
  /-- The members in the order in which they were written. -/
  | object (members : List (String × Json))
deriving Inhabited

namespace Json

def ofNat (value : Nat) : Json := .number (toString value)

/-- The text, if there is one, and null otherwise. -/
def ofText? : Option String → Json
  | some value => .text value
  | none => .null

def asText? : Json → Option String
  | .text value => some value
  | _ => none

/-- The text that a value is or, for null, its absence. -/
def asOptionalText? : Json → Option (Option String)
  | .null => some none
  | .text value => some (some value)
  | _ => none

def asObject? : Json → Option (List (String × Json))
  | .object members => some members
  | _ => none

/-- The known fields of a record. A record is written as an object, whose other members do not
count and whose known fields occur once, or as an array of its first fields in their order. -/
def asRecord? (fields : List String) : Json → Option (List (String × Json))
  | .object members =>
    let known := members.filter fun (name, _) => fields.contains name
    if (known.map Prod.fst).Nodup then some known else none
  | .array elements =>
    if elements.length ≤ fields.length then some (fields.zip elements) else none
  | _ => none

/-- The dictionary that an object is, each of its values read by `read`. -/
def asDictionary? {α : Type} (read : Json → Option α) (value : Json) : Option (Dictionary α) := do
  let members ← value.asObject?
  let entries ← members.mapM fun (key, member) => (read member).map fun result => (key, result)
  return Dictionary.ofEntries entries

/-- A field of a record that may be left out or null. -/
def optionalText? (field : String) (record : List (String × Json)) : Option (Option String) :=
  match record.lookup field with
  | none => some none
  | some value => value.asOptionalText?

end Json

end ODataClient
