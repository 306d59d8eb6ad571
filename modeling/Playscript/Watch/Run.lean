import Playscript.Watch.Watcher

/-!
# Runs of a watcher

What may happen to a watcher in the course of time: it is started and
stopped, the system tells it of changes, and it is asked for batches. All of
it may happen in any order, and starting may fail for more than one reason.
A run is a list of such happenings, and what it leaves behind are the batches
that were handed out, each with its time.
-/

namespace Playscript

/-- **What the system tells at once.** -/
inductive Telling where
  /-- The same thing happened to some files. -/
  | event (kind : FileEvent) (paths : List Path)
  /-- Something went wrong, and no file is named. -/
  | trouble
deriving Repr, DecidableEq

/-- The changes that the system tells of. -/
def Telling.changes : Telling → List Change
  | event kind paths => paths.map (⟨·, ChangeKind.ofEvent kind⟩)
  | trouble => []

/-- **What the system answers** when it is asked to watch a directory. -/
inductive WatchAnswer where
  /-- It will tell what happens. -/
  | granted
  /-- It has no means to watch anything. -/
  | noWatcher (words : String)
  /-- It has, but does not watch this directory. -/
  | noWatch (words : String)
deriving Repr, DecidableEq

/-- **Why watching does not begin.** -/
inductive WatchError where
  /-- The directory is not there. -/
  | fault (cause : Fault)
  /-- The system has no means to watch anything. -/
  | noWatcher (words : String)
  /-- The system does not watch the directory. -/
  | noWatch (dir : Path) (words : String)
deriving Repr, DecidableEq

/-- The error in words. -/
def WatchError.message : WatchError → String
  | fault cause => cause.message
  | noWatcher words => "Watch error: failed to create watcher: " ++ words
  | noWatch dir words => "Watch error: failed to watch " ++ dir.text ++ ": " ++ words

namespace Watcher

/-- **Starts watching**, given whether the directory is there and what the
system answers. It is asked only when the directory is there. -/
def startWith (watcher : Watcher) (there : Bool) (answer : WatchAnswer) :
    Except WatchError Unit × Watcher :=
  match watcher.start there with
  | .error fault => (.error (.fault fault), watcher)
  | .ok started =>
    match answer with
    | .granted => (.ok (), started)
    | .noWatcher words => (.error (.noWatcher words), watcher)
    | .noWatch words => (.error (.noWatch watcher.target.dir words), watcher)

/-- The system tells something. -/
def hearAll (watcher : Watcher) (telling : Telling) : Watcher :=
  telling.changes.foldl hear watcher

end Watcher

/-- **What may happen to a watcher.** -/
inductive Happening where
  /-- It is to be started. -/
  | start (there : Bool) (answer : WatchAnswer)
  /-- It is stopped. -/
  | stop
  /-- The system tells something. -/
  | told (telling : Telling)
  /-- It is asked for a batch at some time. -/
  | check (now : Nat)
deriving Repr, DecidableEq

/-- **A batch that was handed out.** -/
structure Handout where
  /-- When it was. -/
  time : Nat
  /-- The batch. -/
  batch : List Change
deriving Repr, DecidableEq

namespace Watcher

/-- One thing happens, and perhaps a batch is handed out. -/
def step (watcher : Watcher) : Happening → Option Handout × Watcher
  | .start there answer => (none, (watcher.startWith there answer).2)
  | .stop => (none, watcher.stop)
  | .told telling => (none, watcher.hearAll telling)
  | .check now => ((watcher.check now).1.map (⟨now, ·⟩), (watcher.check now).2)

/-- **One thing happens after another.** The batches come in the order in
which they were handed out. -/
def run (watcher : Watcher) : List Happening → List Handout × Watcher
  | [] => ([], watcher)
  | happening :: rest =>
    let (handout, watcher) := watcher.step happening
    let (handouts, watcher) := run watcher rest
    (handout.toList ++ handouts, watcher)

end Watcher

end Playscript
