import Playscript.Classifier
import Playscript.Proofs.Clue
import Playscript.Proofs.Text.Casing

/-!
# More words never lead to a later rule

A sentence may show clues to several rules, and the first rule in the list
wins. Words that are added in front of a sentence or behind it bring clues of
their own and take none away, so the rule that is taken stays or moves to the
front of the list (`positions_joined`).

Two things might be in the way. The action rules look for whole words in the
lower-cased sentence, and what a sigma is lower-cased to depends on its
neighbours; but neither a word nor the neighbourhood of a letter reaches across
a blank. The selector rules look for phrases at any place, and the folding
they see is made character by character.

Words that are put between the words of a sentence are another matter, since
they may take a phrase apart.
-/

namespace Playscript.Classifier

/-- The position of the rule that tells the action of a sentence, behind all
action rules where there is none. -/
def actionPosition (sentence : String) : Nat :=
  Rule.position Edge.ofWord actionRules (Text.lowercase sentence).toList

/-- The position of the rule that names the element of a sentence, behind all
selector rules where there is none. -/
def selectorPosition (sentence : String) : Nat :=
  Rule.position Edge.anywhere selectorRules (sentence.toList.map foldAscii)

/-- The action of a sentence is the verdict of the rule at its position. -/
theorem action_eq_getElem? (sentence : String) :
    action sentence
      = (actionRules[actionPosition sentence]?.map (·.verdict)).getD .unknown := by
  unfold action actionPosition
  rw [Rule.first?_eq_getElem?]

/-- The name of an element is the verdict of the rule at the position of the
sentence, and the short name of the sentence where no rule stands. -/
theorem selectorName_eq_getElem? (classifier : Classifier) (sentence : String) :
    classifier.selectorName sentence
      = (selectorRules[selectorPosition sentence]?.map (·.verdict)).getD
          (Naming.shortName classifier.nouns sentence) := by
  unfold selectorName selectorPosition
  rw [Rule.first?_eq_getElem?]

/-- An action is unknown where no rule is taken and nowhere else. -/
theorem action_eq_unknown_iff (sentence : String) :
    action sentence = .unknown ↔ actionRules.length ≤ actionPosition sentence := by
  have hknown : ∀ rule ∈ actionRules, rule.verdict ≠ .unknown := by decide
  rw [action_eq_getElem?, ← List.getElem?_eq_none_iff]
  cases hrule : actionRules[actionPosition sentence]? with
  | none => simp
  | some rule => simpa using hknown rule (List.mem_of_getElem? hrule)

theorem actionPosition_joined_le (s t : String) :
    actionPosition (s ++ " " ++ t) ≤ min (actionPosition s) (actionPosition t) := by
  unfold actionPosition
  rw [Text.lowercase_append_blank, String.toList_append, String.toList_append, List.append_assoc]
  exact Rule.position_joined_le (Edge.closes_ofWord (by decide)) actionRules _ _

theorem selectorPosition_joined_le (s t : String) :
    selectorPosition (s ++ " " ++ t) ≤ min (selectorPosition s) (selectorPosition t) := by
  unfold selectorPosition
  rw [String.toList_append, String.toList_append, List.append_assoc, List.map_append]
  exact Rule.position_joined_le (Edge.closes_anywhere _) selectorRules _ _

/-- **More words lead to the same rule or to an earlier one.** The verdict on
a sentence is that of the rule at its position. Of two sentences with a blank
between them the position is at most that of either, among the action rules
and among the selector rules; so an action that is known does not become
unknown by words that are added in front or behind. -/
theorem positions_joined (classifier : Classifier) (s t : String) :
    (∀ sentence, action sentence
        = (actionRules[actionPosition sentence]?.map (·.verdict)).getD .unknown)
      ∧ (∀ sentence, classifier.selectorName sentence
        = (selectorRules[selectorPosition sentence]?.map (·.verdict)).getD
          (Naming.shortName classifier.nouns sentence))
      ∧ actionPosition (s ++ " " ++ t) ≤ min (actionPosition s) (actionPosition t)
      ∧ selectorPosition (s ++ " " ++ t) ≤ min (selectorPosition s) (selectorPosition t)
      ∧ (action (s ++ " " ++ t) = .unknown → action s = .unknown ∧ action t = .unknown) := by
  have haction := actionPosition_joined_le s t
  refine ⟨action_eq_getElem?, classifier.selectorName_eq_getElem?, haction,
    selectorPosition_joined_le s t, fun h => ?_⟩
  have hnone := Nat.le_trans ((action_eq_unknown_iff _).mp h) haction
  obtain ⟨hs, ht⟩ := Nat.le_min.mp hnone
  exact ⟨(action_eq_unknown_iff s).mpr hs, (action_eq_unknown_iff t).mpr ht⟩

end Playscript.Classifier
