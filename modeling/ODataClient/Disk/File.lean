import ODataClient.Disk.Basic
import ODataClient.Disk.Path

/-!
# Files to be written

A file that is to be written, and what happens if there is one already.
-/

namespace ODataClient

/-- What happens to a file that is there already. -/
inductive Overwrite where
  | always
  /-- The file is kept. -/
  | ifMissing
deriving DecidableEq, Repr

structure PlannedFile where
  path : String
  /-- The text below the header. -/
  content : String
  overwrite : Overwrite := .always
  header : Option String := none
deriving DecidableEq, Repr

/-- What became of a file that was to be written. -/
inductive WriteResult where
  | written
  /-- There was a file, and it was kept. -/
  | skipped
deriving DecidableEq, Repr

namespace PlannedFile

variable {m : Type → Type} [Monad m] [Disk m] (file : PlannedFile)

def text : String :=
  match file.header with
  | some header => header ++ "\n" ++ file.content
  | none => file.content

/-- Whether there is anything at the path of the file. -/
def isThere : m Bool := do
  return (← kind? file.path).isSome

/-- Whether there is a file already that is kept. -/
def isKept : m Bool := do
  return file.overwrite = .ifMissing && (← file.isThere)

/-- Writes the file and the directories that it lies in, unless it is kept. -/
def writeUnless (isKept : Bool) : ExceptT DiskError m WriteResult := do
  if isKept then return .skipped
  makeDirectories (Path.parent file.path)
  writeText file.path file.text
  return .written

/-- Writes the file and the directories that it lies in, unless it is to be kept. -/
def write : ExceptT DiskError m WriteResult := do
  file.writeUnless (← (file.isKept : m Bool))

end PlannedFile

/-- What became of several files. -/
structure WriteReport where
  written : List String := []
  /-- The files that were kept. -/
  skipped : List String := []
deriving DecidableEq, Repr

namespace WriteReport

/-- Notes what became of a file. -/
def add (report : WriteReport) (path : String) : WriteResult → WriteReport
  | .written => { report with written := report.written ++ [path] }
  | .skipped => { report with skipped := report.skipped ++ [path] }

end WriteReport

end ODataClient
