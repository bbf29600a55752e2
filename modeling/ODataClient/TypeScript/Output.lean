import ODataClient.Disk.File
import ODataClient.TypeScript.Package

/-!
# Packages on disk

Generated files are put below a directory. A file that is there already is kept, unless it is to be
replaced.
-/

namespace ODataClient.TypeScript

/-- The text of a generated file below its header. -/
def OutputFile.body (file : OutputFile) : String :=
  match file.content with
  | .source source => source.render .standard
  | .text text => text

/-- A generated file as it is to be written below a directory. -/
def OutputFile.plan (file : OutputFile) (directory : String) (replace : Bool) : PlannedFile where
  path := Path.below directory file.path
  content := file.body
  overwrite := if replace then .always else .ifMissing
  header := match file.content with
    | .source _ => some SourceFile.header
    | .text _ => none

section Writing

variable {m : Type → Type} [Monad m] [Disk m] (directory : String) (replace : Bool)

/-- Writes a generated file and notes what became of it. -/
def writeFile (report : WriteReport) (file : OutputFile) : ExceptT DiskError m WriteReport := do
  return report.add file.path (← (file.plan directory replace).write)

/-- Writes generated files below a directory, one after the other. -/
def writeFiles (files : List OutputFile) : ExceptT DiskError m WriteReport :=
  files.foldlM (writeFile directory replace) {}

/-- Whether the first of several generated files is kept. -/
def keepsFirst : List OutputFile → m Bool
  | [] => pure false
  | file :: _ => (file.plan directory replace).isKept

/-- Writes generated files below a directory, one after the other, when it has been found out before
whether the first of them is kept. -/
def writeFilesAfter (isFirstKept : Bool) : List OutputFile → ExceptT DiskError m WriteReport
  | [] => pure {}
  | file :: files => do
    let result ← (file.plan directory replace).writeUnless isFirstKept
    files.foldlM (writeFile directory replace) (({} : WriteReport).add file.path result)

end Writing

end ODataClient.TypeScript
