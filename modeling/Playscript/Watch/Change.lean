import Playscript.Path

/-!
# Changes

What a watcher hears of a directory, and what it makes of it. Of several
changes of one file the last one counts, at the place of the first.
-/

namespace Playscript

/-- **What happened to a file**, as the system tells it. -/
inductive FileEvent where
  /-- It came into being. -/
  | create
  /-- Its contents, its name or its attributes changed. -/
  | modify
  /-- It was removed. -/
  | remove
  /-- It was opened, read or closed. -/
  | access
  /-- Something unknown. -/
  | any
  /-- Something else. -/
  | other
deriving Repr, DecidableEq

/-- **What kind of change it is.** -/
inductive ChangeKind where
  /-- The file is new. -/
  | created
  /-- The file is another one than before. -/
  | modified
  /-- The file is gone. -/
  | deleted
  /-- Nothing of these. -/
  | other
deriving Repr, DecidableEq

namespace ChangeKind

/-- The kind of change an event is. -/
def ofEvent : FileEvent → ChangeKind
  | .create => created
  | .modify => modified
  | .remove => deleted
  | .access | .any | .other => other

/-- Whether the file should be processed. -/
def wantsRerun : ChangeKind → Bool
  | created | modified => true
  | deleted | other => false

end ChangeKind

/-- **A change of a file.** -/
structure Change where
  /-- The file. -/
  path : Path
  /-- What kind of change it is. -/
  kind : ChangeKind
deriving Repr, DecidableEq

namespace Change

/-- Puts a change into a list: it gives its kind to the change of the same
file, or comes last when there is none. -/
def merge (change : Change) : List Change → List Change
  | [] => [change]
  | first :: rest =>
    if first.path.same change.path then { first with kind := change.kind } :: rest
    else first :: merge change rest

/-- **One change for each file**, in the order in which the files were
first named and of the kind that was named last. -/
def merged (changes : List Change) : List Change :=
  changes.foldl (fun done change => merge change done) []

/-- **The inputs that a batch asks to be processed**: the files that are new
or other than before. -/
def inputsToRerun (batch : List Change) : List Path :=
  (batch.filter (·.kind.wantsRerun)).map (·.path)

end Change

end Playscript
