/-!
# Dictionaries

Values under keys, in the order in which the keys were first put in. Putting a value under a key
that is there already replaces the value and keeps the place.
-/

namespace ODataClient

/-- Entries in the order in which their keys were first put in. -/
abbrev Dictionary (α : Type) := List (String × α)

namespace Dictionary

variable {α : Type}

def insert (key : String) (value : α) : Dictionary α → Dictionary α
  | [] => [(key, value)]
  | (other, held) :: entries =>
    if other = key then (key, value) :: entries else (other, held) :: insert key value entries

/-- The dictionary into which the entries are put one after the other. -/
def ofEntries (entries : List (String × α)) : Dictionary α :=
  entries.foldl (fun dictionary (key, value) => insert key value dictionary) []

def get? (dictionary : Dictionary α) (key : String) : Option α :=
  List.lookup key dictionary

end Dictionary

end ODataClient
