import Playscript.Disk

/-!
# Choosing inputs

The inputs of a run are all files of a directory that have the suffix of
an input, in order, or files that are named, or both. No input is chosen
twice, however it is written.
-/

namespace Playscript.Inputs

/-- A name with the suffix, which is put behind it if it is missing. -/
def completed (suffix name : String) : String :=
  if suffix.toList.isSuffixOf name.toList then name else name ++ suffix

/-- Adds an input unless it is there already. -/
def add (inputs : List Path) (path : Path) : List Path :=
  if inputs.any path.same then inputs else inputs ++ [path]

/-- Adds inputs by their names in a directory. -/
def addNamed (dir : Path) (suffix : String) (inputs : List Path) (names : List String) :
    List Path :=
  names.foldl (fun inputs name => add inputs (dir.join ⟨completed suffix name⟩)) inputs

variable {m : Type → Type} [Monad m] [Disk m]

/-- Those of several paths at which there are regular files. -/
def onlyFiles : List Path → m (List Path)
  | [] => return []
  | path :: rest => do
    let kept ← onlyFiles rest
    return if ← Disk.isFile path then path :: kept else kept

/-- All inputs of a directory, in order. -/
def findAll (dir : Path) (suffix : String) : m (Except Fault (List Path)) := do
  if ← Disk.isDirectory dir then
    match ← Disk.names dir with
    | .error error => return .error (.disk error)
    | .ok names =>
      let paths := (names.map fun name => dir.join ⟨name⟩).filter (·.stem? suffix |>.isSome)
      return .ok ((← onlyFiles paths).mergeSort Path.le)
  else return .error (.notFound dir)

/-- **The inputs of a run.** A file that is named need not be there. -/
def select (dir : Path) (suffix : String) (all : Bool) (names : List String) :
    m (Except Fault (List Path)) := do
  if all then
    match ← findAll dir suffix with
    | .error fault => return .error fault
    | .ok found => return .ok (addNamed dir suffix found names)
  else return .ok (addNamed dir suffix [] names)

end Playscript.Inputs
