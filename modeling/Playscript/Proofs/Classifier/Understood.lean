import Playscript.Classifier
import Playscript.Proofs.FirstOccurrences
import Playscript.Proofs.Naming.Basic
import Playscript.Proofs.StepMap.Normal

/-!
# What an understood step holds

The parts of a step are found one by one: its name by the selector rules or
from the nouns of the sentence, its locators in the tables under that name, its
argument between the quotes of the sentence. `Describes` says what they are
together, for any tables and any way to find nouns.

Repetitions among locators are dropped in two places. When the sentence is
understood, the fallbacks lose copies of the primary locator and of each other;
when the locators are tried, the whole list is gone through once more. The
second time nothing is found, as the first leaves what erasing duplicates from
the whole list leaves (`selector_cons_fallbacks`).

The locator of a name without an alias has the name between quotes and escapes
nothing in it. It need not: a name has letters and digits only, be it the
verdict of a rule or a short name (`isAlphanum_of_mem_selectorName`).
-/

namespace Playscript.Classifier

/-! ## The name -/

/-- **The name of an element consists of ASCII letters and digits.** -/
theorem isAlphanum_of_mem_selectorName {classifier : Classifier} {sentence : String} {c : Char}
    (h : c ∈ (classifier.selectorName sentence).toList) : c.isAlphanum = true := by
  have hverdicts : ∀ rule ∈ selectorRules, rule.verdict.toList.all Char.isAlphanum = true := by
    decide +kernel
  unfold selectorName at h
  cases hfirst : Rule.first? Edge.anywhere selectorRules (sentence.toList.map foldAscii) with
  | some name =>
    obtain ⟨rule, hrule, rfl⟩ := Rule.exists_of_first?_eq_some hfirst
    rw [hfirst] at h
    exact List.all_eq_true.mp (hverdicts rule hrule) c h
  | none =>
    rw [hfirst] at h
    exact Naming.isAlphanum_of_mem_shortName h

/-! ## Locators -/

/-- The primary locator is looked up under the name. -/
theorem selector_classify (classifier : Classifier) (sentence : String) :
    (classifier.classify sentence).selector
      = (classifier.selectors.alias? (classifier.classify sentence).selectorName).getD
          (testIdLocator (classifier.classify sentence).selectorName) := by
  unfold classify
  rfl

/-- **The locators of an understood step** are the first occurrences of those
that the tables know for its name, the primary one in front. -/
theorem selector_cons_fallbacks (classifier : Classifier) (sentence : String) :
    (classifier.classify sentence).selector :: (classifier.classify sentence).fallbacks
      = ((classifier.classify sentence).selector
          :: classifier.selectors.fallbacksOf
              (classifier.classify sentence).selectorName).eraseDups := by
  rw [List.eraseDups_cons]
  unfold classify
  simp only [ne_eq, decide_not, beq_eq_decide]

/-- Going through the locators of an understood step once more drops none of
them. -/
theorem candidates_classify (classifier : Classifier) (sentence : String) :
    (classifier.classify sentence).candidates
      = (classifier.classify sentence).selector :: (classifier.classify sentence).fallbacks := by
  unfold Step.candidates
  rw [selector_cons_fallbacks]
  exact eraseDups_of_nodup (isFirstOccurrences_eraseDups _).nodup

/-! ## The argument -/

/-- A step has an argument when its action takes one and its sentence quotes
a text that is not empty, and the argument is this text. -/
theorem argument_classify_eq_some_iff (classifier : Classifier) (sentence quote : String) :
    (classifier.classify sentence).argument = some quote
      ↔ (classifier.classify sentence).action.needsArgument = true
        ∧ (∃ before after : String, sentence = before ++ "\"" ++ quote ++ "\"" ++ after
          ∧ '"' ∉ before.toList ∧ '"' ∉ quote.toList)
        ∧ quote ≠ "" := by
  rw [argument_classify, action_classify, ← Naming.quoted?_eq_some_iff]
  split
  · next hneeds => simp [hneeds, Option.filter_eq_some_iff]
  · next hneeds => simp [hneeds]

/-! ## All of it -/

/-- **What a step holds of a sentence.** -/
structure Describes (classifier : Classifier) (sentence : String) (step : Step) : Prop where
  /-- An alias that the table has for the name is the primary locator. -/
  selector_of_alias : ∀ locator,
    classifier.selectors.aliases.get? step.selectorName = some locator → step.selector = locator
  /-- Without one the primary locator asks for the name. -/
  selector_of_no_alias : classifier.selectors.aliases.get? step.selectorName = none →
    step.selector = "[data-testid=\"" ++ step.selectorName ++ "\"]"
  /-- The name can be asked for as it is. -/
  isAlphanum : ∀ c ∈ step.selectorName.toList, c.isAlphanum = true
  /-- All locators are tried, in the order in which the step has them. -/
  candidates_eq : step.candidates = step.selector :: step.fallbacks
  /-- They are the primary locator and those that the table has for the name,
  each at its first place. -/
  isFirstOccurrences : IsFirstOccurrences
    (step.selector :: (classifier.selectors.fallbacks.get? step.selectorName).getD [])
    step.candidates
  /-- The argument is what the sentence quotes, if the action takes one. -/
  argument_eq_some_iff : ∀ quote, step.argument = some quote
    ↔ step.action.needsArgument = true
      ∧ (∃ before after : String, sentence = before ++ "\"" ++ quote ++ "\"" ++ after
        ∧ '"' ∉ before.toList ∧ '"' ∉ quote.toList)
      ∧ quote ≠ ""

/-- **A sentence is understood as a step that describes it**, whatever the
tables hold and however nouns are found. -/
theorem describes_classify (classifier : Classifier) (sentence : String) :
    classifier.Describes sentence (classifier.classify sentence) := by
  constructor
  case selector_of_alias =>
    intro locator halias
    rw [selector_classify, Selectors.alias?, halias, Option.getD_some]
  case selector_of_no_alias =>
    intro halias
    rw [selector_classify, Selectors.alias?, halias, Option.getD_none]
    rfl
  case isAlphanum => exact fun c hc => isAlphanum_of_mem_selectorName hc
  case candidates_eq => exact classifier.candidates_classify sentence
  case isFirstOccurrences =>
    rw [candidates_classify, selector_cons_fallbacks]
    exact isFirstOccurrences_eraseDups _
  case argument_eq_some_iff => exact classifier.argument_classify_eq_some_iff sentence

/-- A password field with an alias of its own, which stands among its fallbacks
once more. -/
theorem describes_classify_aliased :
    let selectors := (Selectors.builtin.withAlias "passwordField" "#pin").withFallbacks
      "passwordField" ["input.pin", "#pin", "input.pin", "#password"]
    let classifier : Classifier := ⟨selectors, Lexicon.nouns⟩
    let sentence := "the user types \"1234\" into the password field"
    let step := classifier.classify sentence
    classifier.Describes sentence step
      ∧ step.selector = "#pin"
      ∧ step.candidates = ["#pin", "input.pin", "#password"]
      ∧ step.argument = some "1234" := by
  intro selectors classifier sentence step
  have h : classifier.Describes sentence step := describes_classify classifier sentence
  have hname : step.selectorName = "passwordField" := by decide +kernel
  have halias : classifier.selectors.aliases.get? step.selectorName = some "#pin" := by
    rw [hname]
    decide +kernel
  exact ⟨h, h.selector_of_alias "#pin" halias, by decide +kernel, by decide +kernel⟩

end Playscript.Classifier
