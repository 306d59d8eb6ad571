import Playscript.Fault
import Playscript.Watch.Change

/-!
# Watchers

A watcher looks at a directory and hands out the changes of its inputs in
batches, two of them no closer in time than the debounce. Changes that
arrive in between are kept (`Watcher.pending`); they and the time of the
last batch outlive stopping and starting. What the system has told a
running watcher lies in a queue until the watcher is asked, and is lost
when it is stopped before that.

Hidden files are no inputs, and so the hidden siblings that outputs are
staged in never cause a batch.
-/

namespace Playscript

/-- **What is watched.** -/
structure WatchTarget where
  /-- The directory. -/
  dir : Path
  /-- The suffix of its inputs. -/
  suffix : String
  /-- The least time between two batches, in milliseconds. -/
  debounce : Nat
deriving Repr, DecidableEq

namespace WatchTarget

/-- The customary time between two batches. -/
def customaryDebounce : Nat := 300

/-- Whether a file is an input. -/
def admits (target : WatchTarget) (path : Path) : Bool :=
  match path.fileName? with
  | some name =>
    name.toList.head? != some '.' && target.suffix.toList.isSuffixOf name.toList
  | none => false

end WatchTarget

/-- **A watcher.** -/
structure Watcher where
  /-- What is watched. -/
  target : WatchTarget
  /-- What the system has told since the watcher was last asked; nothing
  when it is stopped. -/
  queue : Option (List Change)
  /-- The changes of inputs that have not been handed out. -/
  pending : List Change
  /-- When the last batch was handed out. -/
  lastBatch : Option Nat
deriving Repr, DecidableEq

namespace Watcher

/-- A watcher that is stopped. -/
def stopped (target : WatchTarget) : Watcher := ⟨target, none, [], none⟩

/-- Whether the watcher is running. -/
def isRunning (watcher : Watcher) : Bool :=
  watcher.queue.isSome

/-- **Starts watching**, given whether the directory is there. -/
def start (watcher : Watcher) (there : Bool) : Except Fault Watcher :=
  if there then .ok { watcher with queue := some [] }
  else .error (.notFound watcher.target.dir)

/-- Stops watching. -/
def stop (watcher : Watcher) : Watcher :=
  { watcher with queue := none }

/-- The system tells of a change. A watcher that is stopped hears
nothing. -/
def hear (watcher : Watcher) (change : Change) : Watcher :=
  { watcher with queue := watcher.queue.map (· ++ [change]) }

/-- Takes the changes of inputs out of the queue. -/
def collect (watcher : Watcher) : Watcher :=
  match watcher.queue with
  | none => watcher
  | some changes =>
    { watcher with
      queue := some []
      pending := watcher.pending ++ changes.filter (watcher.target.admits ·.path) }

/-- Whether a batch may be handed out. -/
def isDue (watcher : Watcher) (now : Nat) : Bool :=
  match watcher.lastBatch with
  | none => true
  | some last => watcher.target.debounce ≤ now - last

/-- Hands out what is pending, if there is anything and it is time. -/
def release (watcher : Watcher) (now : Nat) : Option (List Change) × Watcher :=
  if watcher.pending ≠ [] ∧ watcher.isDue now then
    (some (Change.merged watcher.pending), { watcher with pending := [], lastBatch := some now })
  else (none, watcher)

/-- **Asks for a batch.** A watcher that is stopped has none to give. -/
def check (watcher : Watcher) (now : Nat) : Option (List Change) × Watcher :=
  if watcher.isRunning then watcher.collect.release now else (none, watcher)

/-- A character in a quoted text. -/
def quoteChar : Char → List Char
  | '"' => ['\\', '"']
  | '\\' => ['\\', '\\']
  | '\n' => ['\\', 'n']
  | '\r' => ['\\', 'r']
  | '\t' => ['\\', 't']
  | '\x00' => ['\\', '0']
  | c => [c]

/-- A text between quotes. -/
def quoted (text : String) : String :=
  "\"" ++ String.ofList (text.toList.flatMap quoteChar) ++ "\""

/-- **The state of a watcher in words**, for a log. -/
def describe (watcher : Watcher) : String :=
  "FileWatcher \x7b config: WatchConfig \x7b watch_dir: " ++ quoted watcher.target.dir.text
    ++ ", suffix: " ++ quoted watcher.target.suffix
    ++ ", debounce_ms: " ++ toString watcher.target.debounce
    ++ " \x7d, is_running: " ++ toString watcher.isRunning
    ++ ", pending_changes: " ++ toString watcher.pending.length ++ " \x7d"

end Watcher

/-- **How often a watcher has caused a run**, and for how many inputs. -/
structure WatchStats where
  /-- The runs. -/
  runs : Nat
  /-- The inputs. -/
  inputs : Nat
deriving Repr, DecidableEq

namespace WatchStats

/-- No run so far. -/
def zero : WatchStats := ⟨0, 0⟩

/-- One more run. -/
def record (stats : WatchStats) (inputs : Nat) : WatchStats :=
  ⟨stats.runs + 1, stats.inputs + inputs⟩

end WatchStats

end Playscript
