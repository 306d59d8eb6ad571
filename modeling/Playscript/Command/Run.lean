import Playscript.Batch
import Playscript.Command.Basic
import Playscript.Inputs
import Playscript.Processing

/-!
# Running commands

A command becomes a job: a directory with inputs of a suffix, and what is
done with each of them. A job is run on the inputs that are selected; when
watching was asked for, it is then handed back, to be run again on each
input that changes, whatever outputs exist
(`Command.optionsForChanges`).
-/

namespace Playscript

/-- **Why a run does not succeed.** -/
inductive CommandError where
  /-- No input was selected. -/
  | noInput
  /-- Some of the inputs failed. -/
  | inputsFailed (failed total : Nat)
  /-- The run could not begin. -/
  | fault (cause : Fault)
deriving Repr, DecidableEq

namespace CommandError

/-- The error in words, given the words for a fault. -/
def messageBy (words : Fault → String) : CommandError → String
  | noInput => "No input selected: pass --all or --file <name>..."
  | inputsFailed failed total =>
    toString failed ++ " of " ++ toString total ++ " input(s) failed"
  | fault cause => words cause

/-- The error in words. -/
def message : CommandError → String := messageBy Fault.message

end CommandError

/-- **A directory with inputs, and what is done with each of them.** -/
structure Job (m : Type → Type) where
  /-- The directory. -/
  dir : Path
  /-- The suffix of the inputs. -/
  suffix : String
  /-- What is done with an input. -/
  process : WriteOptions → Path → m (Except Fault Report)

/-- Whether a batch succeeds: when no input of it failed. -/
def Tally.check (tally : Tally) : Except CommandError Unit :=
  if tally.failed > 0 then .error (.inputsFailed tally.failed tally.total) else .ok ()

variable {m : Type → Type} [Monad m] [Disk m]

namespace Invocation

/-- **The job of an invocation.** The selector tables are read for the first
command only. -/
def job (invocation : Invocation) : m (Except Fault (Job m)) := do
  let layout := invocation.layout
  match invocation.command with
  | .steps _ =>
    match ← Selectors.load layout with
    | .error fault => return .error fault
    | .ok selectors =>
      let classifier := ⟨selectors, Lexicon.nouns⟩
      return .ok ⟨layout.features, Suffix.feature, classifyFile layout classifier⟩
  | .tests _ _ _ =>
    return .ok ⟨layout.stepMaps, Suffix.stepMap, generateFile layout Lexicon.nouns⟩

end Invocation

variable [Console m]

namespace Job

/-- Runs a job on inputs and tells of it. -/
def runOn (job : Job m) (options : WriteOptions) (inputs : List Path) : m Tally := do
  if inputs.isEmpty then
    Console.tell (.info ("no *" ++ job.suffix ++ " files in " ++ job.dir.text))
  runBatch (job.process options) inputs

/-- Makes sure that the directory of a job can be watched. -/
def beginWatch (job : Job m) : m (Except CommandError (Option (Job m))) := do
  if ← Disk.isDirectory job.dir then
    Console.tell (.info ("watching " ++ job.dir.text ++ " for *" ++ job.suffix ++ " changes"))
    return .ok (some job)
  else return .error (.fault (.notFound job.dir))

/-- Runs a job again on inputs that have changed. -/
def rerun (job : Job m) (options : WriteOptions) (inputs : List Path) : m Unit := do
  for input in inputs do
    Console.tell (.info ("detected change: " ++ input.text))
  let _ ← runBatch (job.process options) inputs

end Job

namespace Invocation

/-- **Does what is asked.** The answer is the job to go on with when
watching was asked for. -/
def run (invocation : Invocation) : m (Except CommandError (Option (Job m))) := do
  let selection := invocation.command.selection
  if !selection.isGiven then return .error .noInput
  match ← invocation.job with
  | .error fault => return .error (.fault fault)
  | .ok job =>
    match ← Inputs.select job.dir job.suffix selection.all selection.files with
    | .error fault => return .error (.fault fault)
    | .ok inputs =>
      let tally ← job.runOn invocation.command.options inputs
      if selection.watch then job.beginWatch
      else return tally.check.map fun _ => none

end Invocation

end Playscript
