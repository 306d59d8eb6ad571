import Playscript.Feature.Basic
import Playscript.Proofs.StepMap.RoundTrip

/-!
# No scenario is lost on the way into a map

A document has scenarios in several groups, and a map has them in one list
by name. On the way a name could be lost in two places: where the groups are
put together, and where a scenario is put into the map over one of the same
name. The second cannot happen, as a document with a name that is repeated
is refused before, and the first name in order that repeats an earlier one
is what the refusal names.

So there are two outcomes and no third one (`Feature.ofDocument_intake`):
either some name repeats, or the scenarios of the map are those of the
document, one by one, each with the steps of the backgrounds that cover it
in front of its own.
-/

namespace Playscript

namespace Document

/-- **The names of all scenarios of a document**, those outside of rules
first and then rule by rule. -/
def scenarioNames (document : Document) : List String :=
  document.main.scenarios.map (·.name)
    ++ document.rules.flatMap fun rule => rule.scenarios.map (·.name)

/-- **What a document says, step by step**: every scenario by its name, with
what the steps of the background of the feature, those of the background of
its rule, and its own steps are understood as. -/
def understood (understand : String → Step) (document : Document) : List (String × List Step) :=
  let shared := document.main.background.getD []
  (document.main.scenarios.map fun scenario =>
      (scenario.name, (shared ++ scenario.steps).map understand))
    ++ document.rules.flatMap fun rule => rule.scenarios.map fun scenario =>
      (scenario.name, (shared ++ rule.background.getD [] ++ scenario.steps).map understand)

theorem names_allScenarios (document : Document) :
    document.allScenarios.map (·.name) = document.scenarioNames := by
  rw [allScenarios, List.map_append, List.map_flatMap]
  simp only [ScenarioGroup.covered, List.map_map]
  rfl

theorem map_allScenarios (understand : String → Step) (document : Document) :
    (document.allScenarios.map fun scenario => (scenario.name, scenario.steps.map understand))
      = document.understood understand := by
  rw [allScenarios, List.map_append, List.map_flatMap]
  simp only [ScenarioGroup.covered, List.map_map]
  rfl

end Document

namespace StepMap

/-- Where all names differ, a map has the scenarios it was made of. -/
theorem scenarios_ofList {scenarios : List (String × List Step)}
    (h : (scenarios.map Prod.fst).Nodup) : (ofList scenarios).scenarios = scenarios :=
  scenarios_insertAll_of_nodup empty h

end StepMap

namespace Feature

/-- A document is refused for nothing but a name that is repeated. -/
theorem ofDocument_eq_error_iff {base : String} {path : Path} {document : Document}
    {fault : Fault} :
    ofDocument base path document = .error fault
      ↔ ∃ name, IsFirstRepeated document.scenarioNames name
        ∧ fault = .duplicateScenario name path := by
  rw [ofDocument, Document.names_allScenarios]
  cases hfirst : firstRepeated? document.scenarioNames with
  | none =>
    refine ⟨nofun, ?_⟩
    rintro ⟨name, hname, -⟩
    rw [firstRepeated?_eq_some_iff.mpr hname] at hfirst
    cases hfirst
  | some name =>
    constructor
    · intro h
      exact ⟨name, firstRepeated?_eq_some_iff.mp hfirst, (Except.error.inj h).symm⟩
    · rintro ⟨other, hother, rfl⟩
      rw [firstRepeated?_eq_some_iff.mpr hother] at hfirst
      rw [Option.some.inj hfirst]

/-- A document whose names differ is a feature. -/
theorem ofDocument_eq_ok {base : String} {path : Path} {document : Document}
    (h : document.scenarioNames.Nodup) :
    ofDocument base path document
      = .ok ⟨base, path, document.title, document.allScenarios⟩ := by
  rw [ofDocument, Document.names_allScenarios, firstRepeated?_eq_none_iff.mpr h]

/-- **Understanding a feature keeps its scenarios.** -/
theorem scenarios_classify {feature : Feature} (classifier : Classifier)
    (h : (feature.scenarios.map (·.name)).Nodup) :
    (feature.classify classifier).scenarios
      = feature.scenarios.map fun scenario =>
        (scenario.name, scenario.steps.map classifier.classify) := by
  refine StepMap.scenarios_ofList ?_
  rw [List.map_map]
  exact h

/-- **A document is taken in whole or not at all.** If two of its scenarios
share a name, it is refused, and the first name that repeats an earlier one
is told; there is no other way to be told of a name. If all names differ, it
is understood as the map of all its scenarios in order. The text of a
feature file that is read as the document fares as the document does. -/
theorem ofDocument_intake {path : Path} {base : String}
    (hpath : path.stem? Suffix.feature = some base) (document : Document) :
    (∀ text, Document.parse? text = some document →
        parse path text = ofDocument base path document)
      ∧ (∀ name, ofDocument base path document = .error (.duplicateScenario name path)
        ↔ IsFirstRepeated document.scenarioNames name)
      ∧ ((∃ name, ofDocument base path document = .error (.duplicateScenario name path))
        ↔ ¬ document.scenarioNames.Nodup)
      ∧ (document.scenarioNames.Nodup → ∃ feature, ofDocument base path document = .ok feature
        ∧ ∀ classifier : Classifier,
          (feature.classify classifier).scenarios = document.understood classifier.classify) := by
  have herror : ∀ name, ofDocument base path document = .error (.duplicateScenario name path)
      ↔ IsFirstRepeated document.scenarioNames name := by
    intro name
    rw [ofDocument_eq_error_iff]
    constructor
    · rintro ⟨other, hother, he⟩
      rwa [(Fault.duplicateScenario.inj he).1]
    · exact fun h => ⟨name, h, rfl⟩
  refine ⟨fun text htext => ?_, herror, ?_, fun h => ⟨_, ofDocument_eq_ok h, fun classifier => ?_⟩⟩
  · rw [parse, hpath]
    dsimp only
    rw [htext]
  · simp only [herror, ← firstRepeated?_eq_some_iff, ← firstRepeated?_eq_none_iff]
    exact Option.ne_none_iff_exists'.symm
  · rw [scenarios_classify classifier (by rwa [Document.names_allScenarios])]
    exact Document.map_allScenarios classifier.classify document

/-- A feature with a background, and a rule with one of its own. -/
def shopText : String :=
  "Feature: Shop\nBackground:\nGiven home\nScenario: Browse\nWhen menu\n"
    ++ "Rule: Checkout\nBackground:\nGiven cart\nScenario: Pay\nThen paid\n"

/-- What it says. -/
def shopDocument : Document where
  title := "Shop"
  main := ⟨some ["home"], [⟨"Browse", ["menu"]⟩]⟩
  rules := [⟨some ["cart"], [⟨"Pay", ["paid"]⟩]⟩]

/-- The shop is taken in with all steps that come to its scenarios. -/
theorem ofDocument_intake_shop :
    Path.stem? ⟨"features/shop.feature"⟩ Suffix.feature = some "shop"
      ∧ Document.parse? shopText = some shopDocument
      ∧ shopDocument.scenarioNames.Nodup
      ∧ parse ⟨"features/shop.feature"⟩ shopText
        = ofDocument "shop" ⟨"features/shop.feature"⟩ shopDocument
      ∧ ∃ feature, ofDocument "shop" ⟨"features/shop.feature"⟩ shopDocument = .ok feature
        ∧ ∀ classifier : Classifier, (feature.classify classifier).scenarios
          = [("Browse", [classifier.classify "home", classifier.classify "menu"]),
            ("Pay", [classifier.classify "home", classifier.classify "cart",
              classifier.classify "paid"])] := by
  have hpath : Path.stem? ⟨"features/shop.feature"⟩ Suffix.feature = some "shop" := by decide
  have htext : Document.parse? shopText = some shopDocument := by decide +kernel
  have hnames : shopDocument.scenarioNames.Nodup := by decide
  obtain ⟨hparse, -, -, htaken⟩ := ofDocument_intake hpath shopDocument
  exact ⟨hpath, htext, hnames, hparse shopText htext, htaken hnames⟩

end Feature

end Playscript
