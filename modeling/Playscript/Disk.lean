import Playscript.Fault

/-!
# Disks

What the program needs of a file system. Whatever runs it must offer these
operations (`Disk`); the operations of several steps are made of them
here. An operation that the disk refuses changes nothing.
-/

namespace Playscript

/-- **The operations of a file system.** -/
class Disk (m : Type → Type) where
  /-- Whether something is at a path. -/
  isThere : Path → m Bool
  /-- Whether a regular file is at a path. -/
  isFile : Path → m Bool
  /-- Whether a directory is at a path. -/
  isDirectory : Path → m Bool
  /-- The names of what is in a directory, in any order. -/
  names : Path → m (Except DiskError (List String))
  /-- The text of a file. -/
  readText : Path → m (Except DiskError String)
  /-- Makes a file of a text, in place of the file that is there. -/
  writeText : Path → String → m (Except DiskError Unit)
  /-- Makes a directory where there is nothing. -/
  makeDirectory : Path → m (Except DiskError Unit)
  /-- Moves a file, in place of the file that is there. -/
  moveFile : Path → Path → m (Except DiskError Unit)
  /-- Removes a file. -/
  removeFile : Path → m (Except DiskError Unit)

namespace Path

/-- A path and the ones that come from it by taking away the last component
again and again, no more than the given number of times. -/
def ancestorsUpTo : Nat → Path → List Path
  | 0, path => [path]
  | count + 1, path =>
    match path.parent? with
    | none => [path]
    | some parent => path :: ancestorsUpTo count parent

/-- **A path and all that lead to it**, the longest first. Each has fewer
characters than the one before. -/
def ancestors (path : Path) : List Path :=
  ancestorsUpTo path.text.length path

end Path

namespace Disk

variable {m : Type → Type} [Monad m] [Disk m]

/-- Makes a directory, unless it is there already. -/
def makeUnlessThere (path : Path) : m (Except DiskError Unit) := do
  match ← makeDirectory path with
  | .ok () => return .ok ()
  | .error error => return if ← isDirectory path then .ok () else .error error

/-- Makes the first directory of a list, each entry of which leads to the
one before it. Those behind it are made first where they are missing. -/
def makeFirst : List Path → m (Except DiskError Unit)
  | [] => return .error .missing
  | path :: above => do
    if path.components = [] then return .ok ()
    match ← makeDirectory path with
    | .ok () => return .ok ()
    | .error .missing =>
      match ← makeFirst above with
      | .ok () => makeUnlessThere path
      | .error error => return .error error
    | .error error => return if ← isDirectory path then .ok () else .error error

/-- **Makes a directory and all that lead to it**, as far as they are
missing. -/
def makeAll (path : Path) : m (Except DiskError Unit) :=
  makeFirst path.ancestors

end Disk

end Playscript
