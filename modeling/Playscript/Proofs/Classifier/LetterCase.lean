import Playscript.Classifier
import Playscript.Proofs.Naming.LetterCase

/-!
# Steps are understood whatever their letter case

The selector rules fold the letters of a sentence, the action rules see it in
lower case, and its name forgets how the letters were written. What is left of
letter case in a step that was understood is its argument, which is cited from
the sentence (`classify_toLower`). So of two sentences that differ in the case
of ASCII letters only, both are understood alike, and their arguments differ in
that much (`classify_ignores_case`).
-/

namespace Playscript

/-- The folding of a character does not ask for the case of an ASCII
letter. -/
theorem foldAscii_toLower (c : Char) : foldAscii c.toLower = foldAscii c :=
  Text.apply_toLower (by decide) c

namespace Classifier

theorem selectorName_toLower {classifier : Classifier} (h : IgnoresCase classifier.nouns)
    (sentence : String) :
    classifier.selectorName sentence.toLower = classifier.selectorName sentence := by
  have hfold : foldAscii ∘ Char.toLower = foldAscii := funext foldAscii_toLower
  unfold selectorName
  rw [toList_toLower, List.map_map, hfold, Naming.shortName_toLower h]

theorem action_toLower (sentence : String) : action sentence.toLower = action sentence := by
  unfold action
  rw [Text.lowercase_toLower]

/-- **A sentence in lower case is understood as the sentence is**, but for the
argument, which is in lower case as well. -/
theorem classify_toLower {classifier : Classifier} (h : IgnoresCase classifier.nouns)
    (sentence : String) :
    classifier.classify sentence.toLower
      = { classifier.classify sentence with
          argument := (classifier.classify sentence).argument.map String.toLower } := by
  unfold classify
  rw [selectorName_toLower h, action_toLower, Naming.quoted?_toLower,
    Naming.filter_map_toLower]
  dsimp only
  split
  · rfl
  · rfl

/-- **Two sentences that differ in the case of ASCII letters are understood
alike**: they do the same to the same element, through the same locators, and
their arguments are both absent or differ in the case of ASCII letters. -/
theorem classify_ignores_case {classifier : Classifier}
    (hnouns : classifier.nouns = Lexicon.nouns) {sentence other : String}
    (h : sentence.toLower = other.toLower) :
    (classifier.classify sentence).action = (classifier.classify other).action
      ∧ (classifier.classify sentence).selectorName = (classifier.classify other).selectorName
      ∧ (classifier.classify sentence).selector = (classifier.classify other).selector
      ∧ (classifier.classify sentence).fallbacks = (classifier.classify other).fallbacks
      ∧ (classifier.classify sentence).argument.map String.toLower
        = (classifier.classify other).argument.map String.toLower := by
  have hcase : IgnoresCase classifier.nouns := hnouns ▸ Lexicon.ignoresCase_nouns
  have hsame := congrArg classifier.classify h
  rw [classify_toLower hcase, classify_toLower hcase] at hsame
  simp only [Step.mk.injEq] at hsame
  exact hsame

/-- A sentence with capitals of two alphabets. -/
def greeting : String := "User ENTERS \"Ann Ó\" in the ΛΌΓΟΣ"

/-- The same sentence with its ASCII letters written otherwise. -/
def shoutedGreeting : String := "uSER enters \"ANN Ó\" IN tHE ΛΌΓΟΣ"

/-- The tables with an alias for what the sentence quotes. -/
def greetingClassifier : Classifier := ⟨Selectors.builtin.withAlias "ann" "#ann", Lexicon.nouns⟩

/-- The greeting is understood alike in both spellings, and its argument is
cited as it is written in each. -/
theorem classify_ignores_case_greeting :
    greetingClassifier.nouns = Lexicon.nouns ∧ greeting.toLower = shoutedGreeting.toLower
      ∧ (greetingClassifier.classify greeting).argument = some "Ann Ó"
      ∧ (greetingClassifier.classify shoutedGreeting).argument = some "ANN Ó"
      ∧ (greetingClassifier.classify greeting).action
        = (greetingClassifier.classify shoutedGreeting).action
      ∧ (greetingClassifier.classify greeting).selectorName
        = (greetingClassifier.classify shoutedGreeting).selectorName
      ∧ (greetingClassifier.classify greeting).selector
        = (greetingClassifier.classify shoutedGreeting).selector
      ∧ (greetingClassifier.classify greeting).fallbacks
        = (greetingClassifier.classify shoutedGreeting).fallbacks
      ∧ (greetingClassifier.classify greeting).argument.map String.toLower
        = (greetingClassifier.classify shoutedGreeting).argument.map String.toLower := by
  have hcase : greeting.toLower = shoutedGreeting.toLower :=
    toLower_eq_iff.mpr (by decide +kernel)
  exact ⟨rfl, hcase, by decide +kernel, by decide +kernel, classify_ignores_case rfl hcase⟩

end Classifier

end Playscript
