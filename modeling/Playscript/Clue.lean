import Playscript.Text.Casing
import Playscript.Text.Word

/-!
# Clues in a sentence

A rule recognises a sentence by clues: a phrase that occurs in it, or one
phrase that is followed by another on the same line. Where a phrase may
begin and end is a parameter (`Edge`), a condition on the two characters
that meet there: `Edge.anywhere` asks for nothing, `Edge.ofWord` for the
border of a word.

Rules are tried in order and the first one that recognises the sentence
is taken, so the order of a rule list is part of what it says.
-/

namespace Playscript

/-- **Where a phrase may begin or end**: a condition on the characters
before and after the place, each missing at an end of the text. -/
abbrev Edge := Option Char → Option Char → Bool

namespace Edge

/-- Any place will do. -/
def anywhere : Edge := fun _ _ => true

/-- The place is the border of a word. -/
def ofWord : Edge := fun before after =>
  before.any Text.isWordChar != after.any Text.isWordChar

end Edge

/-- **A clue to a rule.** -/
inductive Clue where
  /-- One of the phrases occurs. -/
  | phrase (forms : List String)
  /-- One of the first phrases occurs, and after it, on the same line, one
  of the second. -/
  | inOrder (first second : List String)
deriving Repr, DecidableEq

namespace Clue

/-- **What follows the occurrences of a phrase**: the last character of the
phrase and the rest of the text, for each occurrence that begins before
the first character at which the search stops. `before` is the character
in front of the text. -/
def occurrences (edge : Edge) (stop : Char → Bool) (phrase : List Char) (before : Option Char) :
    List Char → List (Option Char × List Char)
  | [] => []
  | c :: rest =>
    let after := (c :: rest).drop phrase.length
    let found := phrase.isPrefixOf (c :: rest) && edge before (some c)
      && edge phrase.getLast? after.head?
    let others := if stop c then [] else occurrences edge stop phrase (some c) rest
    if found then (phrase.getLast?, after) :: others else others

/-- The occurrences of any of several phrases, on all lines. -/
def anyOccurrence (edge : Edge) (forms : List String) (text : List Char) :
    List (Option Char × List Char) :=
  forms.flatMap fun form => occurrences edge (fun _ => false) form.toList none text

/-- **Whether a clue is found in a text.** -/
def isFound (edge : Edge) (text : List Char) : Clue → Bool
  | phrase forms => !(anyOccurrence edge forms text).isEmpty
  | inOrder first second =>
    (anyOccurrence edge first text).any fun place =>
      second.any fun form =>
        !(occurrences edge (· == '\n') form.toList place.1 place.2).isEmpty

end Clue

/-- **A rule**: clues, one of which suffices, and what the rule says of a
sentence it recognises. -/
structure Rule (α : Type) where
  /-- The clues, one of which suffices. -/
  clues : List Clue
  /-- What is said of a sentence that shows one of them. -/
  verdict : α

namespace Rule

variable {α : Type}

/-- Whether the rule recognises a text. -/
def recognises (edge : Edge) (text : List Char) (rule : Rule α) : Bool :=
  rule.clues.any (·.isFound edge text)

/-- **The verdict of the first rule that recognises a text.** -/
def first? (edge : Edge) (rules : List (Rule α)) (text : List Char) : Option α :=
  (rules.find? (·.recognises edge text)).map (·.verdict)

end Rule

/-- The simple case folding of a character, as far as it reaches ASCII:
besides the capitals, the long s and the kelvin sign fold to an ASCII
letter, and nothing else does. Two texts of which one is ASCII are equal
up to case when their foldings are. -/
def foldAscii (c : Char) : Char :=
  if c = 'ſ' then 's' else if c = '\u212a' then 'k' else c.toLower

end Playscript
