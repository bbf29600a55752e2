/-!
# Imports

The names that a file imports, gathered per module and kind of import. The modules stay in the
order in which they were first asked for; the names of each are sorted.
-/

namespace ODataClient.Code

/-- Where names are imported from, and whether as types only. -/
structure ImportSource where
  module : String
  typeOnly : Bool
deriving DecidableEq, Repr

/-- One import declaration. -/
structure ImportGroup where
  source : ImportSource
  /-- The names, sorted and without repetition. -/
  names : List String
deriving DecidableEq, Repr

/-- The names asked for, under where they come from. -/
structure Imports where
  entries : List ImportGroup := []
deriving DecidableEq, Repr

/-- Puts a name into its place among sorted names, unless it is there. -/
def insertName (name : String) : List String → List String
  | [] => [name]
  | other :: names =>
    if name < other then name :: other :: names
    else if name = other then other :: names
    else other :: insertName name names

namespace Imports

def none : Imports := {}

/-- Puts names among the entries, behind those there if their source is new. -/
def insertNames (source : ImportSource) (names : List String) : List ImportGroup → List ImportGroup
  | [] => [{ source, names := names.foldl (fun sorted name => insertName name sorted) [] }]
  | entry :: entries =>
    if entry.source = source then
      let all := names.foldl (fun sorted name => insertName name sorted) entry.names
      { entry with names := all } :: entries
    else entry :: insertNames source names entries

/-- Asks for a name. -/
def insert (source : ImportSource) (name : String) (imports : Imports) : Imports where
  entries := insertNames source [name] imports.entries

variable (imports : Imports)

def value (module name : String) : Imports :=
  imports.insert ⟨module, false⟩ name

def type (module name : String) : Imports :=
  imports.insert ⟨module, true⟩ name

def values (module : String) (names : List String) : Imports :=
  names.foldl (fun imports name => imports.value module name) imports

/-- Asks for all that another collection asks for. -/
def merge (other : Imports) : Imports where
  entries := other.entries.foldl (fun entries entry => insertNames entry.source entry.names entries)
    imports.entries

/-- The names that are imported from a module as values. -/
def valuesFrom (module : String) : List String :=
  ((imports.entries.find? (·.source = ⟨module, false⟩)).map ImportGroup.names).getD []

/-- The names of an entry that are left once those are dropped that are imported as types
although the same module gives them as values. -/
def remaining (entry : ImportGroup) : List String :=
  if entry.source.typeOnly then
    entry.names.filter fun name => !(imports.valuesFrom entry.source.module).contains name
  else entry.names

/-- The import declarations, none of which is without names. -/
def groups : List ImportGroup :=
  imports.entries.filterMap fun entry =>
    let names := imports.remaining entry
    if names.isEmpty then Option.none else some { entry with names }

end Imports

end ODataClient.Code
