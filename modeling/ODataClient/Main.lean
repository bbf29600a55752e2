import ODataClient.CommandLine.Run

/-!
# The program

The command line on the disk of the system.
-/

namespace ODataClient.Main

/-- The refusal that an error of the system is. -/
def refusal (error : IO.Error) : DiskError :=
  match error with
  | .noFileOrDirectory .. => .notFound
  | .alreadyExists .. => .alreadyExists
  | .inappropriateType _ code _ =>
    if code = 21 then .isADirectory else .notADirectory
  | other => .other (toString other)

/-- Asks something of the system. -/
def ask {α : Type} (action : IO α) : ExceptT DiskError IO α :=
  ExceptT.mk (tryCatch (Except.ok <$> action) fun error => return .error (refusal error))

/-- What a path leads to. -/
def nodeKind? (path : String) : IO (Option NodeKind) := do
  let place := (← IO.currentDir) / path
  match ← place.metadata.toBaseIO with
  | .ok metadata => return some (if metadata.type == .dir then .directory else .file)
  | .error _ => return none

/-- The files below a directory, each behind the names that lead to the directory. -/
partial def filesFrom (path : String) (names : List String) : IO (List (List String)) := do
  let entries ← ((← IO.currentDir) / path).readDir
  let found ← entries.toList.mapM fun entry => do
    let below := path ++ "/" ++ entry.fileName
    let names := names ++ [entry.fileName]
    match ← nodeKind? below with
    | some .directory => filesFrom below names
    | _ => return [names]
  return found.flatten

def copy (source target : String) : ExceptT DiskError IO Unit := do
  match ← nodeKind? source with
  | none => throw .notFound
  | some .directory => throw .notAFile
  | some .file => ask do IO.FS.writeBinFile target (← IO.FS.readBinFile source)

instance : Disk IO where
  kind? := nodeKind?
  readText path := ask (IO.FS.readFile path)
  writeText path text := ask (IO.FS.writeFile path text)
  makeDirectories path := if path = "" then pure () else ask (IO.FS.createDirAll path)
  copyFile := copy
  filesBelow path := ask (filesFrom path [])

def print : ReportLine → IO Unit
  | .result text => IO.println text
  | .notice text => IO.eprintln text

end ODataClient.Main

def main (arguments : List String) : IO UInt32 := do
  let ending ← ODataClient.CommandLine.run (m := IO) arguments
  ending.lines.forM ODataClient.Main.print
  return ending.exitCode.toUInt32
