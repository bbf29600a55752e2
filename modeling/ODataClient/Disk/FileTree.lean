import ODataClient.Disk.Basic
import ODataClient.Disk.Path

/-!
# File trees

A disk that is a value: files and directories under the names that lead to them from the root, and
the directory from which paths are taken.
-/

namespace ODataClient

/-- The names that lead to a file or directory from the root. -/
abbrev Location := List String

inductive FileNode where
  | file (text : String)
  | directory
deriving DecidableEq, Repr

def FileNode.kind : FileNode → NodeKind
  | file _ => .file
  | directory => .directory

/-- Files and directories. The root is always there. -/
structure FileTree where
  /-- The nodes other than the root, oldest first. -/
  nodes : List (Location × FileNode)
  /-- The directory from which paths are taken that do not start at the root. -/
  workingDirectory : Location
deriving DecidableEq, Repr

namespace FileTree

/-- Puts a node in the place of the one at a location, or behind all others. -/
def setNode (location : Location) (node : FileNode) :
    List (Location × FileNode) → List (Location × FileNode)
  | [] => [(location, node)]
  | (other, held) :: nodes =>
    if other = location then (location, node) :: nodes
    else (other, held) :: setNode location node nodes

variable (tree : FileTree)

def node? (location : Location) : Option FileNode :=
  if location = [] then some .directory else tree.nodes.lookup location

def set (location : Location) (node : FileNode) : FileTree :=
  { tree with nodes := setNode location node tree.nodes }

def maxNameSize : Nat := 255

def maxPathSize : Nat := 4095

/-- Follows one part of a path from a location, which must be that of a directory. -/
def follow (location : Location) (component : String) : Except DiskError Location :=
  match tree.node? location with
  | none => .error .notFound
  | some (.file _) => .error .notADirectory
  | some .directory =>
    if component = "." then .ok location
    else if component = ".." then .ok location.dropLast
    else if component.utf8ByteSize > maxNameSize then .error .nameTooLong
    else .ok (location ++ [component])

/-- Where a path starts. Some paths are refused whatever is on the disk. -/
def start (path : String) : Except DiskError Location :=
  if path.toList.contains '\x00' then .error .zeroInPath
  else if path = "" then .error .notFound
  else if path.utf8ByteSize > maxPathSize then .error .nameTooLong
  else .ok (if Path.isAbsolute path then [] else tree.workingDirectory)

/-- The location that a path leads to. There need not be anything, but it must be in a
directory. -/
def locate (path : String) : Except DiskError Location := do
  (Path.components path).foldlM tree.follow (← tree.start path)

/-- The directory in which the last part of a path is looked for, and that part. -/
def locateParent (path : String) : Except DiskError (Location × String) := do
  let names := Path.components path
  let parent ← names.dropLast.foldlM tree.follow (← tree.start path)
  return (← tree.follow parent ".", names.getLastD ".")

/-- What a path leads to. -/
def find (path : String) : Except DiskError FileNode := do
  let location ← tree.locate path
  match tree.node? location with
  | none => .error .notFound
  | some (.file text) =>
    if Path.meansDirectory path then .error .notADirectory else .ok (.file text)
  | some .directory => .ok .directory

def read (path : String) : Except DiskError String := do
  match ← tree.find path with
  | .file text => .ok text
  | .directory => .error .isADirectory

/-- The tree in which a file has the given text. -/
def write (path text : String) : Except DiskError FileTree := do
  let (parent, name) ← tree.locateParent path
  if Path.meansDirectory path || Path.isStep name then .error .isADirectory
  let location ← tree.follow parent name
  match tree.node? location with
  | some .directory => .error .isADirectory
  | _ => .ok (tree.set location (.file text))

def makeDirectory (path : String) : Except DiskError FileTree := do
  let (parent, name) ← tree.locateParent path
  if Path.isStep name then .error .alreadyExists
  let location ← tree.follow parent name
  if (tree.node? location).isSome then .error .alreadyExists
  else .ok (tree.set location .directory)

def hasDirectory (path : String) : Bool := (tree.find path).toOption = some .directory

/-- Makes a directory after those that lead to it, given from the innermost out, as far as they are
not there. Those made before a refusal stay. -/
def makeAll (tree : FileTree) : List String → Except DiskError Unit × FileTree
  | [] => (.ok (), tree)
  | path :: outer =>
    match tree.makeDirectory path with
    | .ok next => (.ok (), next)
    | .error .notFound =>
      match makeAll tree outer with
      | (.error error, next) => (.error error, next)
      | (.ok (), next) =>
        match next.makeDirectory path with
        | .ok last => (.ok (), last)
        | .error error => (if next.hasDirectory path then .ok () else .error error, next)
    | .error error => (if tree.hasDirectory path then .ok () else .error error, tree)

/-- The names that lead from one location to another below it. -/
def relative? (base location : Location) : Option Location :=
  if base.isPrefixOf location then some (location.drop base.length) else none

/-- The files below a directory, each by the names that lead to it from there. -/
def filesIn (path : String) : Except DiskError (List Location) := do
  let base ← tree.locate path
  return tree.nodes.filterMap fun (location, node) =>
    if node.kind = .file then relative? base location else none

/-- Writes a file, if that is not refused. -/
def writing (path text : String) : ExceptT DiskError (StateM FileTree) Unit := fun tree =>
  match tree.write path text with
  | .ok next => (.ok (), next)
  | .error error => (.error error, tree)

/-- Copies a file over another. The other is emptied before the text is read. -/
def copying (source target : String) : ExceptT DiskError (StateM FileTree) Unit := do
  match (← get).find source with
  | .error error => throw error
  | .ok .directory => throw .notAFile
  | .ok (.file _) =>
    writing target ""
    match (← get).read source with
    | .ok text => writing target text
    | .error error => throw error

/-- Answers from a tree without changing it. -/
def reading {α : Type} (ask : FileTree → Except DiskError α) :
    ExceptT DiskError (StateM FileTree) α :=
  fun tree => (ask tree, tree)

instance : Disk (StateM FileTree) where
  kind? path := fun tree => ((tree.find path).toOption.map FileNode.kind, tree)
  readText path := reading (·.read path)
  writeText := writing
  makeDirectories path := fun tree => makeAll tree (Path.ancestors path)
  copyFile := copying
  filesBelow path := reading (·.filesIn path)

end FileTree

end ODataClient
