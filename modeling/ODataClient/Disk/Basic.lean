/-!
# Disks

What is asked of a disk: whether paths lead to files or directories, and to read and write them.
-/

namespace ODataClient

/-- Why something asked of a disk is refused. -/
inductive DiskError where
  /-- A path leads nowhere. -/
  | notFound
  /-- There is a file where a directory should be made. -/
  | alreadyExists
  /-- A path leads through a file. -/
  | notADirectory
  | isADirectory
  /-- A path, or a name in it, has too many bytes. -/
  | nameTooLong
  /-- A path holds the character with the number zero. -/
  | zeroInPath
  /-- What should be copied is no file. -/
  | notAFile
  /-- A refusal in the words of the system. -/
  | other (message : String)
deriving DecidableEq, Repr

def DiskError.message : DiskError → String
  | notFound => "No such file or directory (os error 2)"
  | alreadyExists => "File exists (os error 17)"
  | notADirectory => "Not a directory (os error 20)"
  | isADirectory => "Is a directory (os error 21)"
  | nameTooLong => "File name too long (os error 36)"
  | zeroInPath => "file name contained an unexpected NUL byte"
  | notAFile => "the source path is neither a regular file nor a symlink to a regular file"
  | other message => message

/-- What a path can lead to. -/
inductive NodeKind where
  | file
  | directory
deriving DecidableEq, Repr

class Disk (m : Type → Type) where
  /-- What a path leads to, if anything. -/
  kind? (path : String) : m (Option NodeKind)
  /-- The text of a file. -/
  readText (path : String) : ExceptT DiskError m String
  /-- Makes a file, or gives a file another text. -/
  writeText (path text : String) : ExceptT DiskError m Unit
  /-- Makes a directory and those that lead to it, unless they are there. -/
  makeDirectories (path : String) : ExceptT DiskError m Unit
  /-- Copies a file over another, which is emptied first. -/
  copyFile (source target : String) : ExceptT DiskError m Unit
  /-- The files below a directory, each by the names that lead to it from there. -/
  filesBelow (path : String) : ExceptT DiskError m (List (List String))

export Disk (kind? readText writeText makeDirectories copyFile filesBelow)

variable {m : Type → Type} [Monad m] [Disk m]

def isFile (path : String) : m Bool := do
  return (← kind? path) = some .file

def isDirectory (path : String) : m Bool := do
  return (← kind? path) = some .directory

end ODataClient
