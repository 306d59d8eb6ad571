import Playscript.Console

/-!
# Batches

Inputs are processed one after the other. One that fails is told of and
counted, and the next one is processed all the same.
-/

namespace Playscript

variable {m : Type → Type} [Monad m] [Console m]

/-- Processes inputs in order and counts their fates on top of a tally. -/
def processAll (process : Path → m (Except Fault Report)) (tally : Tally) :
    List Path → m Tally
  | [] => return tally
  | input :: rest => do
    match ← process input with
    | .ok report =>
      Console.tell (.report report)
      processAll process (tally.record report.outcome) rest
    | .error fault =>
      Console.tell (.failure input fault)
      processAll process tally.recordFailure rest

/-- **Processes a batch of inputs** and tells how it ended. -/
def runBatch (process : Path → m (Except Fault Report)) (inputs : List Path) : m Tally := do
  let tally ← processAll process Tally.zero inputs
  Console.tell (.summary tally)
  return tally

end Playscript
