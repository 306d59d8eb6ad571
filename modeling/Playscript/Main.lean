import Playscript.Command.Line
import Playscript.Command.Run
import Playscript.Watch.Watcher

/-!
# The program

The command line over the files of the system. What is decided is decided
elsewhere; here files are read and written, lines are printed, and a
watched directory is looked at again and again.
-/

namespace Playscript

/-- How a run prints what it tells. -/
structure Screen where
  /-- How lines look. -/
  style : Style
  /-- Whether failures only are told. -/
  quiet : Bool
  /-- When the batch began. -/
  began : IO.Ref Nat

/-- A run on the files of the system. -/
abbrev Live := ReaderT Screen IO

namespace Live

/-- A path as the system takes it. -/
def located (path : Path) :=
  (⟨path.text, ""⟩ : IO.FS.DirEntry).root

/-- An error of the system. -/
def errorOf : IO.Error → DiskError
  | .noFileOrDirectory _ _ _ => .missing
  | error => .other (toString error)

/-- Does something that the system may refuse. -/
def attempt {α : Type} (act : IO α) : Live (Except DiskError α) := do
  try
    let value ← act
    return .ok value
  catch error => return .error (errorOf error)

/-- What kind of thing is at a path. -/
def kindAt? (path : Path) : Live (Option IO.FS.FileType) := do
  try
    let found ← (located path).metadata
    return some found.type
  catch _ => return none

instance : Disk Live where
  isThere path := return (← kindAt? path).isSome
  isFile path := return match ← kindAt? path with
    | some .file => true
    | _ => false
  isDirectory path := return match ← kindAt? path with
    | some .dir => true
    | _ => false
  names path := attempt do return (← (located path).readDir).toList.map (·.fileName)
  readText path := attempt (IO.FS.readFile path.text)
  writeText path text := attempt (IO.FS.writeFile path.text text)
  makeDirectory path := attempt (IO.FS.createDir path.text)
  moveFile source target := attempt (IO.FS.rename source.text target.text)
  removeFile path := attempt (IO.FS.removeFile path.text)

/-- Milliseconds as seconds with two places. -/
def seconds (time : Nat) : String :=
  let hundredths := (time + 5) / 10
  let places := toString (hundredths % 100)
  toString (hundredths / 100) ++ "." ++ (if places.length = 1 then "0" ++ places else places)

instance : Console Live where
  tell notice := do
    let screen ← read
    let now ← IO.monoMsNow
    let began ← screen.began.get
    if notice.isShown screen.quiet then
      IO.eprintln (notice.line screen.style (seconds (now - began)))
    match notice with
    | .summary _ => screen.began.set now
    | _ => return ()

/-! ## Watching -/

/-- When the inputs of a directory were last modified. -/
abbrev Snapshot := List (Path × IO.FS.SystemTime)

/-- Looks at the inputs of a directory. -/
def look (target : WatchTarget) : Live Snapshot := do
  match ← (Disk.names target.dir : Live _) with
  | .error _ => return []
  | .ok names =>
    let paths := (names.map fun name => target.dir.join ⟨name⟩).filter target.admits
    paths.filterMapM fun path => do
      try
        let found ← (located path).metadata
        return some (path, found.modified)
      catch _ => return none

/-- The time a snapshot has for a path. -/
def timeOf? (snapshot : Snapshot) (path : Path) : Option IO.FS.SystemTime :=
  (snapshot.find? (·.1 = path)).map (·.2)

/-- What has changed from one look to the next. -/
def changesBetween (before after : Snapshot) : List Change :=
  let gone := before.filter fun entry => (timeOf? after entry.1).isNone
  let here := after.filterMap fun entry =>
    match timeOf? before entry.1 with
    | none => some ⟨entry.1, .created⟩
    | some time => if time == entry.2 then none else some ⟨entry.1, .modified⟩
  gone.map (fun entry => ⟨entry.1, .deleted⟩) ++ here

/-- Runs a job again whenever inputs change. It does not end. -/
partial def watch (job : Job Live) (options : WriteOptions) (watcher : Watcher)
    (before : Snapshot) : Live Unit := do
  IO.sleep 100
  let after ← look watcher.target
  let watcher := (changesBetween before after).foldl Watcher.hear watcher
  let now ← IO.monoMsNow
  let (batch, watcher) := watcher.check now
  let inputs := Change.inputsToRerun (batch.getD [])
  if !inputs.isEmpty then
    (← read).began.set now
    job.rerun options inputs
  watch job options watcher after

/-- Goes on with a job that is to be watched. -/
def goOn (job : Job Live) (options : WriteOptions) : Live Unit := do
  let target : WatchTarget := ⟨job.dir, job.suffix, WatchTarget.customaryDebounce⟩
  match (Watcher.stopped target).start true with
  | .error _ => return ()
  | .ok watcher => watch job options watcher (← look target)

/-- How lines look on a terminal or elsewhere. -/
def styleFor (color : ColorChoice) (terminal : Bool) : Style :=
  match color, terminal with
  | .always, true | .automatic, true => .colours
  | .always, false => .symbols
  | _, _ => .words

/-- Does what is asked, and gives the exit status. -/
def perform (invocation : Invocation) : IO UInt32 := do
  let terminal ← (← IO.getStderr).isTty
  let began ← IO.mkRef (← IO.monoMsNow)
  let screen : Screen :=
    ⟨styleFor invocation.color terminal, invocation.verbosity.isQuiet, began⟩
  match ← (invocation.run : Live (Except CommandError (Option (Job Live)))).run screen with
  | .ok none => return 0
  | .ok (some job) =>
    (goOn job invocation.command.optionsForChanges).run screen
    return 0
  | .error error =>
    IO.eprintln ("Error: " ++ error.message)
    return 1

end Live

end Playscript

open Playscript in
/-- Reads the words of the command line and does what they ask. -/
def main (words : List String) : IO UInt32 := do
  match CommandLine.parse words with
  | .ok invocation => Live.perform invocation
  | .error usage =>
    if usage.exitCode = 0 then IO.print usage.message else IO.eprint usage.message
    return usage.exitCode.toUInt32
