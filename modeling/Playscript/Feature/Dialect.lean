/-!
# Dialects of features

Features are written in several languages. A dialect says by which words
the parts of a feature begin. Where one word begins another, the order of
the list decides.
-/

namespace Playscript

/-- **The words by which the parts of a feature begin.** -/
structure Dialect where
  /-- The feature. -/
  feature : List String
  /-- The steps that come before those of each scenario. -/
  background : List String
  /-- A group of scenarios. -/
  rule : List String
  /-- A scenario. -/
  scenario : List String
  /-- A scenario with examples. -/
  outline : List String
  /-- The examples of a scenario. -/
  examples : List String
  /-- A step that says what is given. -/
  context : List String
  /-- A step that says what happens. -/
  event : List String
  /-- A step that says what is expected. -/
  outcome : List String
  /-- A step that adds to the one before it. -/
  conjunction : List String
  /-- A step that sets itself off from the one before it. -/
  contrast : List String
deriving Repr, DecidableEq

namespace Dialect

/-- English. -/
def english : Dialect where
  feature := ["Feature", "Business Need", "Ability"]
  background := ["Background"]
  rule := ["Rule"]
  scenario := ["Example", "Scenario"]
  outline := ["Scenario Outline", "Scenario Template"]
  examples := ["Examples", "Scenarios"]
  context := ["* ", "Given "]
  event := ["* ", "When "]
  outcome := ["* ", "Then "]
  conjunction := ["* ", "And "]
  contrast := ["* ", "But "]

/-- French. -/
def french : Dialect where
  feature := ["Fonctionnalité"]
  background := ["Contexte"]
  rule := ["Règle"]
  scenario := ["Exemple", "Scénario"]
  outline := ["Plan du scénario", "Plan du Scénario"]
  examples := ["Exemples"]
  context := [
    "* ", "Soit ", "Sachant que ", "Sachant qu'", "Sachant ", "Etant donné que ",
    "Etant donné qu'", "Etant donné ", "Etant donnée ", "Etant donnés ", "Etant données ",
    "Étant donné que ", "Étant donné qu'", "Étant donné ", "Étant donnée ", "Étant donnés ",
    "Étant données "]
  event := ["* ", "Quand ", "Lorsque ", "Lorsqu'"]
  outcome := ["* ", "Alors ", "Donc "]
  conjunction := ["* ", "Et que ", "Et qu'", "Et "]
  contrast := ["* ", "Mais que ", "Mais qu'", "Mais "]

/-- German. -/
def german : Dialect where
  feature := ["Funktionalität", "Funktion"]
  background := ["Grundlage", "Hintergrund", "Voraussetzungen", "Vorbedingungen"]
  rule := ["Rule", "Regel"]
  scenario := ["Beispiel", "Szenario"]
  outline := ["Szenariogrundriss", "Szenarien"]
  examples := ["Beispiele"]
  context := ["* ", "Angenommen ", "Gegeben sei ", "Gegeben seien "]
  event := ["* ", "Wenn "]
  outcome := ["* ", "Dann "]
  conjunction := ["* ", "Und "]
  contrast := ["* ", "Aber "]

/-- **The dialect of a language**, by the language's short name. -/
def named? : String → Option Dialect
  | "en" => some english
  | "fr" => some french
  | "de" => some german
  | _ => none

/-- The words by which steps begin. -/
def steps (d : Dialect) : List String :=
  d.context ++ d.event ++ d.outcome ++ d.conjunction ++ d.contrast

/-- The words that end the description of a feature. -/
def afterFeature (d : Dialect) : List String :=
  d.background ++ d.rule ++ d.scenario ++ d.outline

/-- The words that end the description of a rule. -/
def afterRule (d : Dialect) : List String :=
  d.background ++ d.scenario ++ d.outline

/-- The words that end the description of a scenario or of a background. -/
def afterScenario (d : Dialect) : List String :=
  d.scenario ++ d.outline ++ d.steps

/-- The words that end the description of examples; a table does so too. -/
def afterExamples (d : Dialect) : List String :=
  d.afterScenario ++ ["|"]

end Dialect

end Playscript
