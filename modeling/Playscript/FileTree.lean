import Playscript.Disk

/-!
# File trees

A disk in memory. A tree says what is at each location; a location is the
list of names that lead to it, the innermost first. A path is followed
part by part from the top or from the working directory
(`FileTree.locate`): wherever a further part follows, there must be a
directory. So an entry is only ever put into a directory that is there.

A tree has directories and regular files, and no links. Whoever works on it
may read and write all of it, and there is always room for more. What becomes
of a text for which there is no room is said here too
(`FileTree.writeWithin`), but only a volume runs out of room.
-/

namespace Playscript

/-- **A place in a tree**: the names that lead to it, the innermost
first. -/
abbrev Location := List String

/-- **What is at a place.** -/
inductive Node where
  /-- A directory. -/
  | directory
  /-- A file with its bytes. -/
  | file (bytes : ByteArray)

/-- **A file tree.** -/
structure FileTree where
  /-- What is at each location; nothing where no entry says otherwise. -/
  entries : List (Location × Node)
  /-- The directory from which paths lead. -/
  workDir : Location

namespace FileTree

/-- The directories on the way to a location, and the location. -/
def wayTo : Location → List Location
  | [] => []
  | name :: dir => (name :: dir) :: wayTo dir

/-- The tree with nothing in it but the way to the working directory. -/
def bare (workDir : Location) : FileTree :=
  ⟨(wayTo workDir).map (·, .directory), workDir⟩

/-- **What is at a location.** At the top there is a directory. -/
def at? (tree : FileTree) : Location → Option Node
  | [] => some .directory
  | location => tree.entries.lookup location

/-- Puts something at a location, in place of what is there. -/
def put (tree : FileTree) (location : Location) (node : Node) : FileTree :=
  { tree with entries := (location, node) :: tree.entries.filter (·.1 ≠ location) }

/-- Takes away what is at a location. -/
def erase (tree : FileTree) (location : Location) : FileTree :=
  { tree with entries := tree.entries.filter (·.1 ≠ location) }

/-! ## Following paths -/

/-- Whether a directory is at a location, and the error when none is. -/
def checkDirectory (tree : FileTree) (location : Location) : Except DiskError Unit :=
  match tree.at? location with
  | some .directory => .ok ()
  | some (.file _) => .error .wrongKind
  | none => .error .missing

/-- Whether an entry can have a name: at most 255 bytes. -/
def isName (name : String) : Bool :=
  name.utf8ByteSize ≤ 255

/-- Follows one part of a path from a directory. -/
def follow (tree : FileTree) (location : Location) (part : List Char) :
    Except DiskError Location := do
  tree.checkDirectory location
  if Path.isSilent part then return location
  match Path.componentOf part with
  | .entry name => if isName name then return name :: location else .error .badName
  | _ => return location.tail

/-- Follows the parts of a path. -/
def followAll (tree : FileTree) (location : Location) (parts : List (List Char)) :
    Except DiskError Location :=
  parts.foldlM tree.follow location

/-- **The location a path leads to**, whether something is there or not.
The empty path leads nowhere, and no path has a null character. -/
def locate (tree : FileTree) (path : Path) : Except DiskError Location :=
  if path.text.toList.contains '\x00' then .error .badName
  else if path.text = "" then .error .missing
  else tree.followAll (if path.isAbsolute then [] else tree.workDir) path.parts

/-- What is at a path. -/
def find? (tree : FileTree) (path : Path) : Option Node :=
  match tree.locate path with
  | .ok location => tree.at? location
  | .error _ => none

/-! ## The operations of a disk -/

/-- The names of the entries directly within a location. -/
def namesWithin (tree : FileTree) (location : Location) : List String :=
  tree.entries.filterMap fun entry =>
    match entry.1 with
    | name :: dir => if dir = location then some name else none
    | [] => none

/-- The names of what is in a directory. -/
def names (tree : FileTree) (path : Path) : Except DiskError (List String) := do
  let location ← tree.locate path
  tree.checkDirectory location
  return tree.namesWithin location

/-- The text of a file. -/
def readText (tree : FileTree) (path : Path) : Except DiskError String := do
  match tree.at? (← tree.locate path) with
  | none => .error .missing
  | some .directory => .error .wrongKind
  | some (.file bytes) =>
    match String.fromUTF8? bytes with
    | some text => return text
    | none => .error .notText

/-- The tree with a file made of bytes. -/
def writeBytes (tree : FileTree) (path : Path) (bytes : ByteArray) :
    Except DiskError FileTree := do
  let location ← tree.locate path
  match tree.at? location with
  | some .directory => .error .wrongKind
  | _ => return tree.put location (.file bytes)

/-- A path without the slashes at its end. -/
def withoutSlashes (path : Path) : Path :=
  let text := Text.trimEnd (· = '/') path.text.toList
  if text = [] then path else ⟨String.ofList text⟩

/-- The tree with a directory made where there is nothing. -/
def makeDirectory (tree : FileTree) (path : Path) : Except DiskError FileTree := do
  let location ← tree.locate (withoutSlashes path)
  match tree.at? location with
  | some _ => .error .wrongKind
  | none => return tree.put location .directory

/-- The tree with a file moved. -/
def moveFile (tree : FileTree) (source target : Path) : Except DiskError FileTree := do
  let source ← tree.locate source
  let target ← tree.locate target
  match tree.at? source, tree.at? target with
  | none, _ => .error .missing
  | some .directory, _ => .error .wrongKind
  | some (.file _), some .directory => .error .wrongKind
  | some (.file bytes), _ => return (tree.erase source).put target (.file bytes)

/-- The tree without a file. -/
def removeFile (tree : FileTree) (path : Path) : Except DiskError FileTree := do
  let location ← tree.locate path
  match tree.at? location with
  | none => .error .missing
  | some .directory => .error .wrongKind
  | some (.file _) => return tree.erase location

/-- Does what changes a tree, unless it is refused. -/
def change (op : FileTree → Except DiskError FileTree) :
    StateM FileTree (Except DiskError Unit) := fun tree =>
  match op tree with
  | .ok tree => (.ok (), tree)
  | .error error => (.error error, tree)

/-- Makes a file of a text as far as there is room, which is counted in
bytes. Where it runs out, what has been written by then stays. -/
def writeWithin (room : Nat) (path : Path) (text : String) :
    StateM FileTree (Except DiskError Unit) := fun tree =>
  match tree.writeBytes path (text.toUTF8.extract 0 room) with
  | .ok tree => (if text.utf8ByteSize ≤ room then .ok () else .error .full, tree)
  | .error error => (.error error, tree)

/-- **A tree is a disk.** -/
instance : Disk (StateM FileTree) where
  isThere path := return (← get).find? path |>.isSome
  isFile path := return match (← get).find? path with
    | some (.file _) => true
    | _ => false
  isDirectory path := return match (← get).find? path with
    | some .directory => true
    | _ => false
  names path := return (← get).names path
  readText path := return (← get).readText path
  writeText path text := change (·.writeBytes path text.toUTF8)
  makeDirectory path := change (·.makeDirectory path)
  moveFile source target := change (·.moveFile source target)
  removeFile path := change (·.removeFile path)

end FileTree

end Playscript
