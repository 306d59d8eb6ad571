import Playscript.Path
import Playscript.Script.Identifier

/-!
# Faults

Why a file cannot be processed. What is known of a fault says how it is
reported (`Fault.heading`); the rest of the report depends on who found it
and adds no knowledge (`Fault.detail?`).
-/

namespace Playscript

/-- **Why the disk refuses.** -/
inductive DiskError where
  /-- There is nothing where there should be something. -/
  | missing
  /-- What is there is no directory, or is one, where it should not be so. -/
  | wrongKind
  /-- The name of an entry cannot be a name. -/
  | badName
  /-- A file does not hold text. -/
  | notText
  /-- There is no room for what is written. -/
  | full
  /-- Something else, in the words of the system. -/
  | other (words : String)
deriving Repr, DecidableEq

namespace DiskError

/-- The error in words. -/
def message : DiskError → String
  | missing => "no such file or directory"
  | wrongKind => "not the right kind of file"
  | badName => "invalid file name"
  | notText => "the file does not hold valid text"
  | full => "no room is left on the disk"
  | other words => words

end DiskError

/-- **Why a file cannot be processed.** -/
inductive Fault where
  /-- There is no such file. -/
  | notFound (path : Path)
  /-- The name of the file does not end as it must. -/
  | unsupportedInput (path : Path) (suffix : String)
  /-- The file is no feature. -/
  | malformedFeature (path : Path)
  /-- Two scenarios of a feature have one name. -/
  | duplicateScenario (name : String) (path : Path)
  /-- The file is no step map. -/
  | malformedStepMap (path : Path)
  /-- The file is no selector table. -/
  | invalidSelectors (path : Path)
  /-- No script can be built. -/
  | unbuildable (cause : Script.BuildError)
  /-- The disk refuses. -/
  | disk (error : DiskError)
deriving Repr, DecidableEq

namespace Fault

/-- What is known of a fault, in words. -/
def heading : Fault → String
  | notFound path => "File not found: " ++ path.text
  | unsupportedInput path suffix =>
    "Unsupported input " ++ path.text ++ ": expected a *" ++ suffix ++ " file"
  | malformedFeature path => "Malformed feature " ++ path.text ++ ": "
  | duplicateScenario name path => "Duplicate scenario '" ++ name ++ "' in " ++ path.text
  | malformedStepMap path => "Malformed step map " ++ path.text ++ ": "
  | invalidSelectors path => "Invalid selector configuration " ++ path.text ++ ": "
  | unbuildable cause => "Code generation failed: " ++ cause.message
  | disk _ => "I/O error: "

/-- What else can be said of a fault, if something must follow. -/
def detail? : Fault → Option String
  | malformedFeature _ => some "not a feature"
  | malformedStepMap _ => some "not a step map"
  | invalidSelectors _ => some "not a selector table"
  | disk error => some error.message
  | _ => none

/-- **The fault in words.** -/
def message (fault : Fault) : String :=
  fault.heading ++ fault.detail?.getD ""

end Fault

end Playscript
