import Playscript.Classifier
import Playscript.Fault
import Playscript.Feature.Document
import Playscript.Repetition
import Playscript.StepMap.Basic
import Playscript.Suffix

/-!
# Features

A feature is a document ready to be understood: the scenarios of all its
groups in one list, each with the steps of the backgrounds that cover it
put before its own. Scenarios are known by their names from here on, so
the names must differ.
-/

namespace Playscript

/-- **A feature.** -/
structure Feature where
  /-- The name of its file without the suffix. -/
  base : String
  /-- Where it comes from. -/
  path : Path
  /-- The title. -/
  title : String
  /-- The scenarios, those of rules behind the others. -/
  scenarios : List Scenario
deriving Repr, DecidableEq

namespace ScenarioGroup

/-- The scenarios of a group with the steps that come before theirs. -/
def covered (outer : List String) (group : ScenarioGroup) : List Scenario :=
  group.scenarios.map fun scenario =>
    ⟨scenario.name, outer ++ group.background.getD [] ++ scenario.steps⟩

end ScenarioGroup

namespace Document

/-- **All scenarios of a document**, each with every step it has. -/
def allScenarios (document : Document) : List Scenario :=
  document.main.covered []
    ++ document.rules.flatMap (·.covered (document.main.background.getD []))

end Document

namespace Feature

/-- **The feature of a document**, unless two of its scenarios have one
name. -/
def ofDocument (base : String) (path : Path) (document : Document) : Except Fault Feature :=
  let scenarios := document.allScenarios
  match firstRepeated? (scenarios.map (·.name)) with
  | some name => .error (.duplicateScenario name path)
  | none => .ok ⟨base, path, document.title, scenarios⟩

/-- **Reads the text of a file as a feature.** The name of the file is
looked at first. -/
def parse (path : Path) (text : String) : Except Fault Feature :=
  match path.stem? Suffix.feature with
  | none => .error (.unsupportedInput path Suffix.feature)
  | some base =>
    match Document.parse? text with
    | none => .error (.malformedFeature path)
    | some document => ofDocument base path document

/-- **Understands every step of a feature.** -/
def classify (classifier : Classifier) (feature : Feature) : StepMap :=
  StepMap.ofList <| feature.scenarios.map fun scenario =>
    (scenario.name, scenario.steps.map classifier.classify)

end Feature

end Playscript
