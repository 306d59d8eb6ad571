import Playscript.Classifier
import Playscript.Proofs.Naming.Basic
import Playscript.Proofs.Naming.StopWords
import Playscript.Proofs.Page.Plan
import Playscript.Proofs.StepMap.Normal

/-!
# Which steps have a name

Every sentence with an ASCII letter or digit in it has something that a name
can be made of, and one might expect it to have a name. It need not. What a
name is made of is chosen first, and only then is it cut down to ASCII letters
and digits: a quote that is not empty wins over the rest of the sentence, and
nouns win over words that are none, whether or not anything is left of them.
So `the user clicks "→"` has the empty name
(`not_forall_selectorName_ne_empty`), and so has any other sentence that was
to be named after a quote or after nouns without such characters.

`Naming.IsNameable` says what must be there: an ASCII letter or digit in the
part of the sentence that was chosen. Then and only then the sentence has a
name, if no rule gives it one. Sentences without a name are not told apart,
neither by their locators nor by the accessors of a page object; sentences
with one share an accessor for the sake of their common name only.
-/

namespace Playscript

namespace Naming

/-- **A sentence that has a short name**: there is an ASCII letter or digit in
what the name is made of. -/
inductive IsNameable (sentence : String) : Prop
  /-- It is made of the quote. -/
  | ofQuote {quote : String} (quoted : quoted? sentence = some quote)
      (alphanum : HasAlphanum quote) : IsNameable sentence
  /-- Nothing is quoted but the empty text, and it is made of the first
  nouns. -/
  | ofNouns (unquoted : ∀ quote, quoted? sentence = some quote → quote = "") {noun : String}
      (mem : noun ∈ (Lexicon.nouns sentence).take maxNouns) (alphanum : HasAlphanum noun) :
      IsNameable sentence
  /-- There are no nouns either, and it is made of all of the sentence. -/
  | ofSentence (unquoted : ∀ quote, quoted? sentence = some quote → quote = "")
      (nouns : Lexicon.nouns sentence = []) (alphanum : HasAlphanum sentence) :
      IsNameable sentence

section

variable {sentence : String}

/-- A quote that is not empty decides. -/
theorem isNameable_iff_of_quoted {quote : String} (h : quoted? sentence = some quote)
    (hne : quote ≠ "") : IsNameable sentence ↔ HasAlphanum quote := by
  constructor
  · rintro (⟨hquoted, halphanum⟩ | ⟨hunquoted, -, -⟩ | ⟨hunquoted, -, -⟩)
    · rw [h, Option.some.injEq] at hquoted
      rwa [hquoted]
    · exact absurd (hunquoted quote h) hne
    · exact absurd (hunquoted quote h) hne
  · exact .ofQuote h

/-- Without one the nouns decide, or the sentence when there are none. -/
theorem isNameable_iff_of_unquoted (h : ∀ quote, quoted? sentence = some quote → quote = "") :
    IsNameable sentence
      ↔ (∃ noun ∈ (Lexicon.nouns sentence).take maxNouns, HasAlphanum noun)
        ∨ Lexicon.nouns sentence = [] ∧ HasAlphanum sentence := by
  constructor
  · rintro (⟨hquoted, halphanum⟩ | ⟨-, hmem, halphanum⟩ | ⟨-, hnouns, halphanum⟩)
    · rw [h _ hquoted] at halphanum
      exact absurd halphanum (by decide +kernel)
    · exact .inl ⟨_, hmem, halphanum⟩
    · exact .inr ⟨hnouns, halphanum⟩
  · rintro (⟨noun, hmem, halphanum⟩ | ⟨hnouns, halphanum⟩)
    · exact .ofNouns h hmem halphanum
    · exact .ofSentence h hnouns halphanum

/-- **A short name is empty unless the sentence is nameable.** -/
theorem shortName_ne_empty_iff : shortName Lexicon.nouns sentence ≠ "" ↔ IsNameable sentence := by
  unfold shortName
  rw [nouns_withoutStopWords]
  cases hquote : (quoted? sentence).filter (· ≠ "") with
  | some quote =>
    obtain ⟨hquoted, hne⟩ := Option.filter_eq_some_iff.mp hquote
    rw [isNameable_iff_of_quoted hquoted (of_decide_eq_true hne)]
    exact camelCase_ne_empty_iff
  | none =>
    have hunquoted : ∀ quote, quoted? sentence = some quote → quote = "" := fun quote h => by
      simpa using Option.filter_eq_none_iff.mp hquote quote h
    rw [isNameable_iff_of_unquoted hunquoted]
    cases Lexicon.nouns sentence with
    | nil =>
      rw [List.take_nil]
      exact camelCase_ne_empty_iff.trans (by simp)
    | cons noun others =>
      exact camelCase_ne_empty_iff.trans (hasAlphanum_spaced_iff.trans (by simp))

end

end Naming

namespace Classifier

/-- **A sentence that has a name**: a rule gives it one, or it is nameable. -/
def IsNamed (sentence : String) : Prop :=
  (∃ rule ∈ selectorRules,
      rule.recognises Edge.anywhere (sentence.toList.map foldAscii) = true)
    ∨ Naming.IsNameable sentence

/-- **The name of an element is empty unless its sentence has one**, whatever
the tables hold. -/
theorem selectorName_ne_empty_iff (selectors : Selectors) (sentence : String) :
    (Classifier.mk selectors Lexicon.nouns).selectorName sentence ≠ "" ↔ IsNamed sentence := by
  have hverdicts : ∀ rule ∈ selectorRules, rule.verdict ≠ "" := by decide
  unfold selectorName IsNamed Rule.first?
  cases hfind : selectorRules.find?
      (·.recognises Edge.anywhere (sentence.toList.map foldAscii)) with
  | some rule =>
    have hrule := List.mem_of_find?_eq_some hfind
    have hrecognises : rule.recognises Edge.anywhere (sentence.toList.map foldAscii) = true :=
      List.find?_some hfind
    rw [Option.map_some, Option.getD_some]
    exact iff_of_true (hverdicts rule hrule) (.inl ⟨rule, hrule, hrecognises⟩)
  | none =>
    have hnone : ¬∃ rule ∈ selectorRules,
        rule.recognises Edge.anywhere (sentence.toList.map foldAscii) = true :=
      fun ⟨rule, hrule, h⟩ => List.find?_eq_none.mp hfind rule hrule h
    rw [Option.map_none, Option.getD_none, or_iff_right hnone]
    exact Naming.shortName_ne_empty_iff

/-- Names are told apart by the locators that ask for them. -/
theorem testIdLocator_inj {name other : String} :
    testIdLocator name = testIdLocator other ↔ name = other := by
  unfold testIdLocator
  rw [String.append_left_inj, String.append_right_inj]

/-- **A sentence has a name when there is an ASCII letter or digit in what the
name is made of**, and only then. If it is known under no alias, the name is
what its locator asks for, and that of a sentence without a name asks for
nothing. In a page object for any map in which it stands, a sentence with a
name shares its accessor only with sentences that have the same name. -/
theorem isNamed_iff (selectors : Selectors) (sentence : String) :
    let classifier : Classifier := ⟨selectors, Lexicon.nouns⟩
    let step := classifier.classify sentence
    (step.selectorName ≠ "" ↔ IsNamed sentence)
      ∧ (selectors.alias? step.selectorName = none →
        (step.selector ≠ "[data-testid=\"\"]" ↔ IsNamed sentence))
      ∧ ∀ (nouns : NounFinder) (base : String) (map : StepMap) (other : String),
        IsNamed sentence → step ∈ map.steps → classifier.classify other ∈ map.steps →
        (Page.Plan.of nouns base map).accessor step.selectorName
          = (Page.Plan.of nouns base map).accessor (classifier.classify other).selectorName →
        step.selectorName = (classifier.classify other).selectorName ∧ IsNamed other := by
  intro classifier step
  have hnamed : ∀ sentence, (classifier.classify sentence).selectorName ≠ "" ↔ IsNamed sentence :=
    selectorName_ne_empty_iff selectors
  refine ⟨hnamed sentence, fun halias => ?_, ?_⟩
  · have hselector : step.selector = testIdLocator step.selectorName := by
      show (selectors.alias? step.selectorName).getD _ = _
      rw [halias]
      rfl
    have hempty : testIdLocator "" = "[data-testid=\"\"]" := rfl
    rw [hselector, ← hempty, ← hnamed sentence]
    exact testIdLocator_inj.not
  · intro nouns base map other hsentence hstep hother haccessor
    have hname := Page.Plan.selectorName_eq_of_accessor_eq hstep hother haccessor
    exact ⟨hname, (hnamed other).mp (hname ▸ (hnamed sentence).mpr hsentence)⟩

/-- Two sentences that are named alike after what they quote. -/
theorem isNamed_iff_signIn :
    let classifier : Classifier := ⟨Selectors.builtin, Lexicon.nouns⟩
    let step := classifier.classify "the user clicks \"Sign in\""
    let other := classifier.classify "the page shows \"sign-in\""
    let map : StepMap := .ofList [("sign in", [step, other])]
    IsNamed "the user clicks \"Sign in\"" ∧ step.selectorName = "signIn"
      ∧ Selectors.builtin.alias? step.selectorName = none
      ∧ step.selector ≠ "[data-testid=\"\"]"
      ∧ step ∈ map.steps ∧ other ∈ map.steps
      ∧ (Page.Plan.of Lexicon.nouns "shop" map).accessor step.selectorName
        = (Page.Plan.of Lexicon.nouns "shop" map).accessor other.selectorName
      ∧ step.selectorName = other.selectorName
      ∧ IsNamed "the page shows \"sign-in\"" := by
  intro classifier step other map
  have hquoted : Naming.quoted? "the user clicks \"Sign in\"" = some "Sign in" := by decide +kernel
  have hnamed : IsNamed "the user clicks \"Sign in\"" := .inr (.ofQuote hquoted (by decide +kernel))
  have hstep : step.selectorName = "signIn" := by decide +kernel
  have hother : other.selectorName = "signIn" := by decide +kernel
  have halias : Selectors.builtin.alias? step.selectorName = none := by
    rw [hstep]
    decide
  have hmem : step ∈ map.steps := List.mem_cons_self
  have hmem' : other ∈ map.steps := List.mem_cons_of_mem _ List.mem_cons_self
  have haccessor : (Page.Plan.of Lexicon.nouns "shop" map).accessor step.selectorName
      = (Page.Plan.of Lexicon.nouns "shop" map).accessor other.selectorName := by
    rw [hstep, hother]
  obtain ⟨-, hselector, hshare⟩ :=
    isNamed_iff Selectors.builtin "the user clicks \"Sign in\""
  exact ⟨hnamed, hstep, halias, (hselector halias).mpr hnamed, hmem, hmem', haccessor,
    hshare Lexicon.nouns "shop" map "the page shows \"sign-in\"" hnamed hmem hmem' haccessor⟩

/-- **A letter or digit in a sentence is not enough for a name.** -/
theorem not_forall_selectorName_ne_empty :
    ¬∀ (selectors : Selectors) (sentence : String), Naming.HasAlphanum sentence →
      (Classifier.mk selectors Lexicon.nouns).selectorName sentence ≠ "" := by
  intro h
  exact h Selectors.builtin "the user clicks \"→\"" (by decide +kernel) (by decide +kernel)

end Classifier

end Playscript
