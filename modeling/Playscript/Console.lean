import Playscript.Output

/-!
# Console

What a run tells, and how it looks. A run tells of the fate of each input,
of things worth knowing, and at its end of how many inputs had which fate.
When it is quiet it tells of failures only, and of the end only when there
was one.

A line begins with a mark that says what kind of line it is: a word, or a
symbol, which may be coloured.
-/

namespace Playscript

/-- **What became of an input.** -/
structure Report where
  /-- The input. -/
  input : Path
  /-- The name of its feature. -/
  base : String
  /-- What became of its outputs. -/
  outcome : Outcome
deriving Repr, DecidableEq

/-- **How many inputs had which fate.** -/
structure Tally where
  /-- Outputs were written. -/
  generated : Nat
  /-- Outputs existed. -/
  skipped : Nat
  /-- Outputs were only named. -/
  previewed : Nat
  /-- The input failed. -/
  failed : Nat
deriving Repr, DecidableEq

namespace Tally

/-- No input so far. -/
def zero : Tally := ⟨0, 0, 0, 0⟩

/-- One more input with an outcome. -/
def record (tally : Tally) : Outcome → Tally
  | .written _ => { tally with generated := tally.generated + 1 }
  | .skipped _ => { tally with skipped := tally.skipped + 1 }
  | .preview _ => { tally with previewed := tally.previewed + 1 }

/-- One more input that failed. -/
def recordFailure (tally : Tally) : Tally :=
  { tally with failed := tally.failed + 1 }

/-- All inputs. -/
def total (tally : Tally) : Nat :=
  tally.generated + tally.skipped + tally.previewed + tally.failed

/-- Whether all went well, in a word. -/
def verdict (tally : Tally) : String :=
  if tally.failed > 0 then "FAILED" else "OK"

/-- The tally in words, with the time it took. -/
def summary (tally : Tally) (time : String) : String :=
  toString tally.total ++ " input(s) in " ++ time ++ "s (" ++ toString tally.generated
    ++ " generated, " ++ toString tally.skipped ++ " skipped, " ++ toString tally.previewed
    ++ " dry-run, " ++ toString tally.failed ++ " failed)"

end Tally

/-- **What a run tells.** -/
inductive Notice where
  /-- What became of an input. -/
  | report (report : Report)
  /-- Why an input failed. -/
  | failure (input : Path) (fault : Fault)
  /-- Something worth knowing. -/
  | info (text : String)
  /-- The end of a batch. -/
  | summary (tally : Tally)
deriving Repr, DecidableEq

/-- **Who is told what a run tells.** -/
class Console (m : Type → Type) where
  /-- Tells something. -/
  tell : Notice → m Unit

/-! ## Verbosity -/

/-- **How much is told.** -/
inductive Verbosity where
  /-- Failures only. -/
  | quiet
  /-- One line for each input. -/
  | normal
  /-- What is going on as well. -/
  | verbose
  /-- Everything. -/
  | debug
deriving Repr, DecidableEq

namespace Verbosity

/-- The verbosity that is asked for. Being quiet wins over any number of
requests to be verbose. -/
def ofRequests (quiet : Bool) (verbose : Nat) : Verbosity :=
  if quiet then .quiet
  else match verbose with
    | 0 => .normal
    | 1 => .verbose
    | _ => .debug

/-- Whether failures only are told. -/
def isQuiet (verbosity : Verbosity) : Bool :=
  verbosity = .quiet

/-- The lowest level of the log that is kept. -/
def logLevel : Verbosity → String
  | quiet => "error"
  | normal => "warn"
  | verbose => "debug"
  | debug => "trace"

end Verbosity

/-- **Whether a notice is shown** to someone who asked to be quiet or did
not. -/
def Notice.isShown (quiet : Bool) : Notice → Bool
  | report _ => !quiet
  | failure _ _ => true
  | info _ => !quiet
  | summary tally => !quiet || tally.failed > 0

/-! ## Lines -/

/-- **What kind of line it is.** -/
inductive Mark where
  /-- Outputs were written. -/
  | generated
  /-- Outputs existed. -/
  | skipped
  /-- Outputs were only named. -/
  | preview
  /-- The input failed. -/
  | failed
  /-- Something worth knowing. -/
  | info
deriving Repr, DecidableEq

/-- **How lines look.** -/
inductive Style where
  /-- Words. -/
  | words
  /-- Symbols. -/
  | symbols
  /-- Symbols in colour. -/
  | colours
deriving Repr, DecidableEq

/-- A text in a bold colour of a terminal. -/
def inBold (colour : Nat) (text : String) : String :=
  "\x1b[" ++ toString colour ++ "m\x1b[1m" ++ text ++ "\x1b[0m"

namespace Mark

/-- The word for a mark. -/
def word : Mark → String
  | generated => "DONE"
  | skipped => "SKIP"
  | preview => "DRY"
  | failed => "FAIL"
  | info => "INFO"

/-- The symbol for a mark. -/
def symbol : Mark → String
  | generated => "✓"
  | skipped => "⚠"
  | preview => "→"
  | failed => "✗"
  | info => "ℹ"

/-- The colour for a mark: green, yellow, cyan, red and blue. -/
def colour : Mark → Nat
  | generated => 32
  | skipped => 33
  | preview => 36
  | failed => 31
  | info => 34

/-- A mark as it looks. -/
def shown (mark : Mark) : Style → String
  | .words => mark.word
  | .symbols => mark.symbol
  | .colours => inBold mark.colour mark.symbol

end Mark

/-- A line with its mark. -/
def Style.line (style : Style) (mark : Mark) (text : String) : String :=
  mark.shown style ++ " " ++ text

/-- The last line of a batch. -/
def Style.lastLine (style : Style) (tally : Tally) (time : String) : String :=
  let verdict := match style with
    | .colours => inBold (if tally.failed > 0 then 31 else 32) tally.verdict
    | _ => tally.verdict
  verdict ++ " " ++ tally.summary time

/-- Paths with a comma and a blank between them. -/
def listed (paths : List Path) : String :=
  ", ".intercalate (paths.map (·.text))

/-- **A report in words**, and its mark. -/
def Report.line (report : Report) : Mark × String :=
  match report.outcome with
  | .written paths => (.generated, report.base ++ ": generated " ++ listed paths)
  | .skipped existing =>
    (.skipped,
      report.base ++ ": skipped, " ++ existing.text ++ " already exists (use --force to overwrite)")
  | .preview paths => (.preview, report.base ++ ": would write " ++ listed paths)

/-- **The line of a notice.** -/
def Notice.line (style : Style) (time : String) : Notice → String
  | report told => style.line told.line.1 told.line.2
  | failure input fault => style.line .failed (input.text ++ ": " ++ fault.message)
  | info text => style.line .info text
  | summary tally => style.lastLine tally time

end Playscript
