import Playscript.Command.Basic

/-!
# Command lines

How a list of words is read as an invocation. Options stand before and
behind the name of the command; those of the program may stand in both
places, and behind the name they weigh more. An option that takes values
waits for them (`Scan.pending`) and is settled when the next option begins
or the words end, so what is wrong with a value shows only then: a word
that is no option at all is found before it.
-/

namespace Playscript

/-- **An option.** -/
inductive Opt where
  /-- More is told. -/
  | verbose
  /-- Failures only are told. -/
  | quiet
  /-- Whether lines are coloured. -/
  | color
  /-- The directory of the project. -/
  | root
  /-- All inputs. -/
  | all
  /-- Inputs by name. -/
  | file
  /-- Outputs that exist are replaced. -/
  | force
  /-- The inputs are watched. -/
  | watch
  /-- The directory of the features. -/
  | featuresDir
  /-- The directory of the step maps. -/
  | stepMapsDir
  /-- Nothing is written. -/
  | dryRun
  /-- The directory of what is generated. -/
  | outputDir
  /-- Help. -/
  | help
  /-- The version. -/
  | version
deriving Repr, DecidableEq

/-- **What an option takes.** -/
inductive Takes where
  /-- No value. -/
  | nothing
  /-- One value. -/
  | value
  /-- One value or more. -/
  | values
deriving Repr, DecidableEq

namespace Opt

/-- The long name, without its two dashes. -/
def long : Opt → String
  | verbose => "verbose"
  | quiet => "quiet"
  | color => "color"
  | root => "root"
  | all => "all"
  | file => "file"
  | force => "force"
  | watch => "watch"
  | featuresDir => "features-dir"
  | stepMapsDir => "step-maps-dir"
  | dryRun => "dry-run"
  | outputDir => "output-dir"
  | help => "help"
  | version => "version"

/-- The short name, without its dash. Only options that take nothing have
one. -/
def short? : Opt → Option Char
  | verbose => some 'v'
  | quiet => some 'q'
  | watch => some 'w'
  | help => some 'h'
  | version => some 'V'
  | _ => none

/-- What the option takes. -/
def takes : Opt → Takes
  | color | root | featuresDir | stepMapsDir | outputDir => .value
  | file => .values
  | _ => .nothing

/-- Whether the option may be given again. -/
def mayRepeat : Opt → Bool
  | verbose | file => true
  | _ => false

/-- Whether a text is a value of the option. A path is not empty. -/
def admits : Opt → String → Bool
  | color, text => ["auto", "always", "never"].contains text
  | root, text | featuresDir, text | stepMapsDir, text | outputDir, text => text ≠ ""
  | _, _ => true

end Opt

/-- **Where an option stands**: before the name of a command, or behind
it. -/
inductive Place where
  /-- Before the name. -/
  | program
  /-- Behind the name of the first command. -/
  | steps
  /-- Behind the name of the second command. -/
  | tests
deriving Repr, DecidableEq

namespace Place

/-- The options of the program, which may stand anywhere. -/
def everywhere : List Opt := [.verbose, .quiet, .color, .root, .help, .version]

/-- The options of both commands. -/
def ofCommands : List Opt := [.all, .file, .force, .watch, .featuresDir, .stepMapsDir]

/-- The options that may stand in a place. -/
def options : Place → List Opt
  | program => everywhere
  | steps => everywhere ++ ofCommands
  | tests => everywhere ++ ofCommands ++ [.dryRun, .outputDir]

/-- What the version is asked of. -/
def title : Place → String
  | program => "testgen"
  | steps => "testgen-steps"
  | tests => "testgen-tests"

/-- The place behind the name of a command. -/
def behind? : String → Option Place
  | "steps" => some steps
  | "tests" => some tests
  | _ => none

end Place

/-- **Why words are no invocation.** -/
inductive Usage where
  /-- A word is no option and no value. -/
  | unknownArgument
  /-- An option lacks a value or does not take the one it has. -/
  | invalidValue
  /-- An option is given twice. -/
  | argumentConflict
  /-- An option that takes nothing has a value. -/
  | tooManyValues
  /-- A word stands for a command and is none. -/
  | invalidSubcommand
  /-- There are options and no command. -/
  | missingSubcommand
  /-- There is nothing. -/
  | nothingGiven
  /-- Help is asked for. -/
  | help
  /-- The version is asked for. -/
  | version (title : String)
deriving Repr, DecidableEq

namespace Usage

/-- The version. -/
def versionNumber : String := "0.4.0"

/-- The exit status: what was asked for is no error. -/
def exitCode : Usage → Nat
  | help | version _ => 0
  | _ => 2

/-- What is printed for it. -/
def message : Usage → String
  | unknownArgument => "error: unexpected argument\n"
  | invalidValue => "error: an option lacks a valid value\n"
  | argumentConflict => "error: an option cannot be used more than once\n"
  | tooManyValues => "error: an option takes no value\n"
  | invalidSubcommand => "error: unrecognized subcommand\n"
  | missingSubcommand => "error: a subcommand is required\n"
  | nothingGiven | help =>
    "Usage: testgen [-v] [-q] [--color WHEN] [--root DIR] steps|tests [--all] [--file NAME...]\n"
      ++ "  [--force] [--watch] [--features-dir DIR] [--step-maps-dir DIR]\n"
      ++ "tests only: [--dry-run] [--output-dir DIR]\n"
  | version title => title ++ " " ++ versionNumber ++ "\n"

end Usage

/-- **What has been read of the options of a place.** -/
structure Scan where
  /-- The options that are settled, with their values, in order. -/
  settled : List (Opt × List String)
  /-- The option that is not settled yet, with its values so far. -/
  pending : Option (Opt × List String)
  /-- Whether a plain word is a value of the option that is not settled. -/
  hungry : Bool
deriving Repr, DecidableEq

namespace Scan

/-- Nothing has been read. -/
def start : Scan := ⟨[], none, false⟩

/-- **Settles an option with its values**, while no other one is pending.
Help and the version are given at once. -/
def add (place : Place) (scan : Scan) (opt : Opt) (values : List String) : Except Usage Scan :=
  if opt.takes ≠ .nothing ∧ values = [] then .error .invalidValue
  else if opt = .help then .error .help
  else if opt = .version then .error (.version place.title)
  else if !opt.mayRepeat && scan.settled.any (·.1 = opt) then .error .argumentConflict
  else if values.all opt.admits then
    .ok ⟨scan.settled ++ [(opt, values)], none, false⟩
  else .error .invalidValue

/-- Settles the option that is pending. -/
def resolve (place : Place) (scan : Scan) : Except Usage Scan :=
  match scan.pending with
  | none => .ok scan
  | some (opt, values) => add place { scan with pending := none } opt values

/-- Settles an option behind the one that is pending. -/
def settle (place : Place) (scan : Scan) (opt : Opt) (values : List String) :
    Except Usage Scan := do
  add place (← resolve place scan) opt values

/-- Lets an option wait for its values. -/
def await (place : Place) (scan : Scan) (opt : Opt) : Except Usage Scan := do
  let scan ← resolve place scan
  return { scan with pending := some (opt, []), hungry := true }

/-- A plain word is a value of the option that is pending, if it takes one
more. -/
def feed (scan : Scan) (word : String) : Option Scan :=
  match scan.hungry, scan.pending with
  | true, some (opt, values) =>
    some { scan with pending := some (opt, values ++ [word]), hungry := opt.takes = .values }
  | _, _ => none

/-- Reads a word with two dashes: a long name, and a value behind `=`. -/
def readLong (place : Place) (scan : Scan) (body : List Char) : Except Usage Scan :=
  let name := String.ofList (body.takeWhile (· ≠ '='))
  match place.options.find? (·.long = name), body.dropWhile (· ≠ '=') with
  | none, _ => .error .unknownArgument
  | some opt, [] =>
    if opt.takes = .nothing then settle place scan opt [] else await place scan opt
  | some opt, _ :: value =>
    if opt.takes = .nothing then .error .tooManyValues
    else settle place scan opt [String.ofList value]

/-- Reads a word with one dash: short names, one after the other. -/
def readShort (place : Place) (scan : Scan) : List Char → Except Usage Scan
  | [] => .ok scan
  | c :: rest =>
    match place.options.find? (·.short? = some c) with
    | none => .error .unknownArgument
    | some opt => do readShort place (← settle place scan opt []) rest

/-- Why a plain word cannot stand in a place. -/
def misplaced (place : Place) (literal : Bool) (word : String) : Usage :=
  match place with
  | .program =>
    if literal && ((Place.behind? word).isSome || word = "help") then .unknownArgument
    else .invalidSubcommand
  | _ => .unknownArgument

/-- **Reads the words of a place** up to the name of a command, if one may
stand there; the answer has the words behind it. Behind `--` every word is
a plain one. -/
def readWords (place : Place) (scan : Scan) :
    List String → Except Usage (Scan × Option (String × List String))
  | [] => .ok (scan, none)
  | word :: rest =>
    if place = .program && !scan.hungry
        && ((Place.behind? word).isSome || word = "help") then .ok (scan, some (word, rest))
    else
      match word.toList with
      | ['-', '-'] =>
        match rest with
        | [] => .ok (scan, none)
        | word :: _ => .error (misplaced place true word)
      | '-' :: '-' :: body => do readWords place (← readLong place scan body) rest
      | '-' :: c :: body => do readWords place (← readShort place scan (c :: body)) rest
      | _ =>
        match scan.feed word with
        | some scan => readWords place scan rest
        | none => .error (misplaced place false word)

end Scan

/-! ## The invocation of settled options -/

/-- Options that are settled, with their values. -/
abbrev Settled := List (Opt × List String)

namespace Settled

/-- Whether an option is given. -/
def has (settled : Settled) (opt : Opt) : Bool :=
  settled.any (·.1 = opt)

/-- How often an option is given. -/
def count (settled : Settled) (opt : Opt) : Nat :=
  (settled.filter (·.1 = opt)).length

/-- The values of an option. -/
def values (settled : Settled) (opt : Opt) : List String :=
  (settled.filter (·.1 = opt)).flatMap (·.2)

/-- The value of an option that takes one. -/
def value? (settled : Settled) (opt : Opt) : Option String :=
  (settled.values opt).head?

/-- The path of an option that takes one. -/
def path? (settled : Settled) (opt : Opt) : Option Path :=
  (settled.value? opt).map Path.mk

/-- The selection that options make. -/
def selection (settled : Settled) : Selection where
  all := settled.has .all
  files := settled.values .file
  force := settled.has .force
  watch := settled.has .watch
  featuresDir := settled.path? .featuresDir
  stepMapsDir := settled.path? .stepMapsDir

/-- The colours that options ask for. -/
def color (settled : Settled) : ColorChoice :=
  match settled.value? .color with
  | some "always" => .always
  | some "never" => .never
  | _ => .automatic

end Settled

/-- **The invocation** of the options before and behind the name of a
command. -/
def Invocation.ofSettled (before behind : Settled) (command : Command) : Invocation :=
  let weighty (opt : Opt) : Settled := if behind.has opt then behind else before
  { verbosity := Verbosity.ofRequests (before.has .quiet || behind.has .quiet)
      ((weighty .verbose).count .verbose)
    color := (weighty .color).color
    root := ((weighty .root).path? .root).getD ⟨"."⟩
    command }

namespace CommandLine

/-- Reads the words behind a request for help: the name of a command, or
none. -/
def readHelp : List String → Usage
  | [] => .help
  | [word] => if (Place.behind? word).isSome || word = "help" then .help else .invalidSubcommand
  | _ => .invalidSubcommand

/-- The command of a name with its options. -/
def commandOf (place : Place) (settled : Settled) : Command :=
  match place with
  | .tests => .tests settled.selection (settled.has .dryRun) (settled.path? .outputDir)
  | _ => .steps settled.selection

/-- Reads the words behind the name of a command. -/
def readBehind (place : Place) (words : List String) : Except Usage Settled := do
  let (scan, _) ← Scan.readWords place Scan.start words
  return (← scan.resolve place).settled

/-- **Reads words as an invocation.** -/
def parse (words : List String) : Except Usage Invocation := do
  let (scan, found) ← Scan.readWords .program Scan.start words
  match found with
  | none =>
    let scan ← scan.resolve .program
    .error (if scan.settled.isEmpty then .nothingGiven else .missingSubcommand)
  | some (name, rest) =>
    match Place.behind? name with
    | none => .error (readHelp rest)
    | some place =>
      let behind ← readBehind place rest
      let scan ← scan.resolve .program
      return Invocation.ofSettled scan.settled behind (commandOf place behind)

end CommandLine

end Playscript
