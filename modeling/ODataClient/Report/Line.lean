/-!
# Lines of reports

What a report prints, line by line, and where.
-/

namespace ODataClient

/-- A line that is printed. Its text may itself have several lines. -/
inductive ReportLine where
  /-- A line among the results. -/
  | result (text : String)
  /-- A line among the warnings and errors. -/
  | notice (text : String)
deriving DecidableEq, Repr

namespace ReportLine

def blank : ReportLine := result ""

def warning (text : String) : ReportLine := notice ("warning: " ++ text)

def error (text : String) : ReportLine := notice ("error: " ++ text)

/-- The heading of a section. -/
def heading (text : String) : ReportLine := result (text ++ ":")

/-- The heading of a file that is shown. -/
def divider (label : String) : ReportLine := result ("── " ++ label ++ " ──")

/-- An item of a list, with a mark in front. -/
def item (mark text : String) : ReportLine := result ("  " ++ mark ++ " " ++ text)

end ReportLine

/-- A number of things, as in `1 file` and `2 files`. -/
def countOf (count : Nat) (word : String) : String :=
  s!"{count} {word}" ++ if count = 1 then "" else "s"

/-- What comes before a list of items, if there are any. -/
def unlessEmpty {α β : Type} (items : List α) (lines : List β) : List β :=
  if items.isEmpty then [] else lines

end ODataClient
