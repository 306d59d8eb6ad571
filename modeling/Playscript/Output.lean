import Playscript.Disk
import Playscript.Page.Base

/-!
# Writing outputs

The outputs of one input are written together. What exists is not
replaced unless that is asked for; then one existing output is enough to
leave all of them alone. New contents are put into a hidden sibling of
each target first, and only when all of them are there are they moved into
place. When something fails, the siblings of the drafts that are staged by
then are removed.
-/

namespace Playscript

/-- **How outputs that exist are treated.** -/
structure WriteOptions where
  /-- They are replaced. -/
  force : Bool
  /-- Nothing is written, only said. -/
  dryRun : Bool
deriving Repr, DecidableEq

/-- **What became of the outputs of an input.** -/
inductive Outcome where
  /-- They were written. -/
  | written (paths : List Path)
  /-- Nothing was written because this one exists. -/
  | skipped (existing : Path)
  /-- Nothing was written because that was asked for. -/
  | preview (paths : List Path)
deriving Repr, DecidableEq

/-- A file to be written: where, and what. -/
abbrev Draft := Path × String

/-- The hidden sibling of a target. -/
def stagingOf (target : Path) : Path :=
  target.withFileName ("." ++ target.fileName?.getD "" ++ ".tmp")

namespace Output

variable {m : Type → Type} [Monad m] [Disk m]

/-- The first of several paths at which something is. -/
def firstThere? : List Path → m (Option Path)
  | [] => return none
  | path :: rest => do
    if ← Disk.isThere path then return some path
    firstThere? rest

/-- Makes the directory of a target, unless its path names none. -/
def makeParent (target : Path) : m (Except DiskError Unit) :=
  match target.parent? with
  | some parent => if parent.text = "" then return .ok () else Disk.makeAll parent
  | none => return .ok ()

/-- Writes a draft into the sibling of its target. -/
def stage (draft : Draft) : m (Except DiskError Unit) := do
  match ← makeParent draft.1 with
  | .ok () => Disk.writeText (stagingOf draft.1) draft.2
  | .error error => return .error error

/-- Removes the siblings of targets as far as it can. -/
def discard : List Path → m Unit
  | [] => return ()
  | target :: rest => do
    let _ ← Disk.removeFile (stagingOf target)
    discard rest

/-- Writes drafts into the siblings of their targets, or none of them;
`staged` are the targets that have one already. -/
def stageAll (staged : List Path) : List Draft → m (Except DiskError Unit)
  | [] => return .ok ()
  | draft :: rest => do
    match ← stage draft with
    | .ok () => stageAll (staged ++ [draft.1]) rest
    | .error error =>
      discard staged
      return .error error

/-- Moves the siblings of targets into place, up to the first that fails. -/
def placeAll : List Path → m (Except DiskError Unit)
  | [] => return .ok ()
  | target :: rest => do
    match ← Disk.moveFile (stagingOf target) target with
    | .ok () => placeAll rest
    | .error error =>
      discard (target :: rest)
      return .error error

/-- Writes drafts over whatever is there. -/
def replaceAll (drafts : List Draft) : m (Except DiskError Unit) := do
  match ← stageAll [] drafts with
  | .ok () => placeAll (drafts.map (·.1))
  | .error error => return .error error

/-- Writes drafts, or says what would be written. -/
def writeOrPreview (drafts : List Draft) (dryRun : Bool) : m (Except DiskError Outcome) := do
  let targets := drafts.map (·.1)
  if dryRun then return .ok (.preview targets)
  match ← replaceAll drafts with
  | .ok () => return .ok (.written targets)
  | .error error => return .error error

/-- **Writes drafts together.** -/
def writeAll (drafts : List Draft) (options : WriteOptions) :
    m (Except DiskError Outcome) := do
  if options.force then writeOrPreview drafts options.dryRun
  else
    match ← firstThere? (drafts.map (·.1)) with
    | some existing => return .ok (.skipped existing)
    | none => writeOrPreview drafts options.dryRun

/-- **Writes the base class of page objects** into a directory, unless
something is there; the answer tells whether it did. -/
def ensureBase (dir : Path) : m (Except DiskError Bool) := do
  let path := dir.join ⟨Page.baseFile⟩
  if ← Disk.isThere path then return .ok false
  match ← Disk.makeAll dir with
  | .error error => return .error error
  | .ok () =>
    match ← Disk.writeText path Page.baseSource with
    | .error error => return .error error
    | .ok () => return .ok true

end Output

end Playscript
