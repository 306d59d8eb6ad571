import Playscript.Console
import Playscript.Layout

/-!
# Commands

What the program can be asked to do: to understand the steps of features,
and to write the scripts of step maps. Both take the same selection of
inputs.
-/

namespace Playscript

/-- **Whether lines are coloured.** -/
inductive ColorChoice where
  /-- Always. -/
  | always
  /-- On a terminal that can show colours. -/
  | automatic
  /-- Never. -/
  | never
deriving Repr, DecidableEq

/-- **Which inputs are processed, and how.** -/
structure Selection where
  /-- All inputs of the directory. -/
  all : Bool
  /-- The inputs that are named. -/
  files : List String
  /-- Outputs that exist are replaced. -/
  force : Bool
  /-- The directory is watched afterwards. -/
  watch : Bool
  /-- The directory of the features, when it is moved. -/
  featuresDir : Option Path
  /-- The directory of the step maps, when it is moved. -/
  stepMapsDir : Option Path
deriving Repr, DecidableEq

namespace Selection

/-- Whether any input is selected. -/
def isGiven (selection : Selection) : Bool :=
  selection.all || !selection.files.isEmpty

end Selection

/-- **A command.** -/
inductive Command where
  /-- Understands the steps of features. -/
  | steps (selection : Selection)
  /-- Writes the scripts of step maps, or only says what would be written,
  beneath another directory if one is given. -/
  | tests (selection : Selection) (dryRun : Bool) (outputDir : Option Path)
deriving Repr, DecidableEq

namespace Command

/-- The selection of inputs. -/
def selection : Command → Selection
  | steps selection => selection
  | tests selection _ _ => selection

/-- How outputs that exist are treated. -/
def options : Command → WriteOptions
  | steps selection => ⟨selection.force, false⟩
  | tests selection dryRun _ => ⟨selection.force, dryRun⟩

/-- How they are treated when an input has changed: they are replaced, but
what only says what would be written goes on to do no more. -/
def optionsForChanges (command : Command) : WriteOptions :=
  { command.options with force := true }

end Command

/-- **What the program is asked to do**, and how it should tell of it. -/
structure Invocation where
  /-- How much is told. -/
  verbosity : Verbosity
  /-- Whether lines are coloured. -/
  color : ColorChoice
  /-- The directory of the project. -/
  root : Path
  /-- The command. -/
  command : Command
deriving Repr, DecidableEq

namespace Invocation

/-- Where the project keeps its inputs. -/
def inputLayout (invocation : Invocation) : Layout :=
  let selection := invocation.command.selection
  let layout := Layout.beneath invocation.root
  let layout := (selection.featuresDir.map layout.withFeatures).getD layout
  (selection.stepMapsDir.map layout.withStepMaps).getD layout

/-- **Where the project keeps its files.** -/
def layout (invocation : Invocation) : Layout :=
  match invocation.command with
  | .tests _ _ (some dir) => invocation.inputLayout.withOutput dir
  | _ => invocation.inputLayout

end Invocation

end Playscript
