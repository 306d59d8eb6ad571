import Playscript.Text.Casing
import Playscript.Text.Numeric
import Playscript.Text.Words

/-!
# Nouns of a sentence

Names are built from the nouns of a sentence. No grammar is needed for
the sentences of test steps: the words of the closed classes (determiners,
pronouns, prepositions, auxiliaries), the verbs and adjectives that steps
use, and adverbs in "-ly" are known, and every other word that consists
of letters counts as a noun.
-/

namespace Playscript

/-- **A way to find the nouns of a sentence**, in sentence order. -/
abbrev NounFinder := String → List String

namespace Lexicon

/-- Determiners. -/
def determiners : List String := [
  "a", "an", "the", "this", "that", "these", "those", "some", "any", "each", "every", "all",
  "no", "my", "your", "his", "her", "its", "our", "their"]

/-- Pronouns. -/
def pronouns : List String := [
  "i", "me", "you", "he", "him", "she", "it", "we", "us", "they", "them", "myself",
  "yourself", "itself", "themselves", "who", "what", "which"]

/-- Prepositions, conjunctions and particles. -/
def prepositions : List String := [
  "to", "on", "in", "into", "onto", "at", "of", "for", "with", "without", "from", "by", "as",
  "via", "over", "under", "about", "after", "before", "within", "inside", "up", "down", "out",
  "off", "through", "between", "near", "and", "or", "but", "nor", "then", "if", "when", "while",
  "than", "not"]

/-- Auxiliary verbs. -/
def auxiliaries : List String := [
  "be", "is", "are", "am", "was", "were", "been", "being", "do", "does", "did", "have", "has",
  "had", "should", "shall", "will", "would", "can", "could", "may", "might", "must"]

/-- The verb forms of the interactions that steps describe. -/
def interactionVerbs : List String := [
  "click", "clicks", "clicked", "clicking", "press", "presses", "pressed", "tap", "taps",
  "tapped", "enter", "enters", "entered", "type", "types", "typed", "provide", "provides",
  "fill", "fills", "filled", "set", "sets", "hover", "hovers", "upload", "uploads", "uploaded",
  "select", "selects", "selected", "choose", "chooses", "chose", "scroll", "scrolls", "clear",
  "clears", "cleared", "wait", "waits", "see", "sees", "saw", "seen", "navigate", "navigates",
  "navigated", "go", "goes", "went", "open", "opens", "opened", "visit", "visits", "view",
  "views", "land", "lands", "submit", "submits", "submitted", "log", "logs", "logged", "sign",
  "signs", "signed", "check", "checks", "checked", "uncheck", "unchecks", "appear", "appears",
  "contain", "contains", "display", "displays", "displayed", "show", "shows", "shown", "get",
  "gets", "redirect", "redirected", "try", "tries", "attempt", "attempts", "remain", "remains"]

/-- Adjectives that describe the state of an element. -/
def adjectives : List String := [
  "visible", "invisible", "hidden", "enabled", "disabled", "valid", "invalid", "empty", "new",
  "correct", "incorrect", "wrong", "successful", "successfully", "present", "available",
  "active", "inactive", "same", "different", "first", "last", "next", "previous", "current",
  "main", "primary", "secondary", "other"]

/-- Nouns that end in "-ly" although they are no adverbs. -/
def nounsInLy : List String := [
  "family", "supply", "reply", "assembly", "anomaly", "butterfly", "monopoly", "rally",
  "jelly", "italy", "ally", "bully", "lily", "belly", "gully"]

/-- Whether a lower-case word is known to be no noun. -/
def isClosed (word : String) : Bool :=
  determiners.contains word || pronouns.contains word || prepositions.contains word
    || auxiliaries.contains word || interactionVerbs.contains word || adjectives.contains word

/-- Whether a lower-case word has the shape of an adverb: it ends in "-ly"
and is longer than four bytes of UTF-8. -/
def isAdverb (word : String) : Bool :=
  4 < word.utf8ByteSize && ['l', 'y'].isSuffixOf word.toList && !nounsInLy.contains word

/-- Whether a token counts as a noun. -/
def isNoun (token : List Char) : Bool :=
  let word := Text.lowercase (String.ofList token)
  token.all Text.isAlphabetic && !isClosed word && !isAdverb word

/-- The tokens of a sentence: its runs of letters, numbers and
apostrophes, the apostrophes at either end taken off. -/
def tokens (sentence : String) : List (List Char) :=
  ((Text.pieces (fun c => !(Text.isAlphanumeric c || c == '\'')) sentence.toList).map
    (Text.trim (· == '\''))).filter (· ≠ [])

/-- **The nouns of a sentence**, in sentence order and as they are
written there. -/
def nouns : NounFinder := fun sentence =>
  ((tokens sentence).filter isNoun).map String.ofList

end Lexicon

end Playscript
