import Playscript.Lexicon

/-!
# Names from sentences

How a step, a scenario or a feature comes by a name: a quoted text wins;
otherwise the first three nouns of the sentence, its stop words dropped,
are written in camel case. Camel case keeps ASCII letters and digits
only, whatever the sentence holds.
-/

namespace Playscript.Naming

/-- **The words dropped before nouns are looked for.** -/
def stopWords : List String := [
  "a", "an", "the", "be", "is", "are", "am", "was", "were", "been", "to", "for", "of", "in",
  "on", "at", "with", "from", "by", "and", "or", "but", "i", "me", "we", "you", "he", "she",
  "it", "they", "should", "have", "has", "had", "do", "does", "will", "can", "must"]

/-- How many nouns a name is made of at most. -/
def maxNouns : Nat := 3

/-- **The text between the first two double quotes**, possibly empty. -/
def quoted? (text : String) : Option String :=
  match text.toList.dropWhile (· ≠ '"') with
  | [] => none
  | _ :: rest =>
    if rest.contains '"' then some (String.ofList (rest.takeWhile (· ≠ '"'))) else none

/-- The camel case of the rest of a text. `started` tells whether
something has been written, `broken` whether a character was skipped
since. -/
def camelFrom (started broken : Bool) : List Char → List Char
  | [] => []
  | c :: rest =>
    if c.isAlphanum then
      (if started && broken then c.toUpper else c.toLower) :: camelFrom true false rest
    else camelFrom started true rest

/-- **ASCII camel case.** Every run of other characters is one break; the
character after a break is a capital unless it is the first of all. -/
def camelCase (text : String) : String :=
  String.ofList (camelFrom false false text.toList)

/-- Whether a word is a stop word once its letters are lower-cased and
what is neither letter nor number is taken off its ends. -/
def isStopWord (word : List Char) : Bool :=
  let bare := Text.trim (fun c => !Text.isAlphanumeric c) word
  stopWords.contains (Text.lowercase (String.ofList bare))

/-- A sentence without its stop words, single spaces between the rest. -/
def withoutStopWords (text : String) : String :=
  let kept := (Text.words text.toList).filter (!isStopWord ·)
  String.ofList ([' '].intercalate kept)

/-- Strings with single spaces between them. -/
def spaced (parts : List String) : String :=
  String.ofList ([' '].intercalate (parts.map String.toList))

/-- **The short name of a sentence**: its first quoted text, unless that is
empty; else its first nouns; else, when it has none, all of it. -/
def shortName (nouns : NounFinder) (text : String) : String :=
  match (quoted? text).filter (· ≠ "") with
  | some quote => camelCase quote
  | none =>
    match nouns (withoutStopWords text) with
    | [] => camelCase text
    | found => camelCase (spaced (found.take maxNouns))

/-- **A sentence as a path segment**: lower case, a hyphen for every run of
white space. -/
def slug (text : String) : String :=
  String.ofList (['-'].intercalate (Text.words (Text.lowercase text).toList))

/-- A text with its first character in upper case. -/
def capitalize (text : String) : String :=
  match text.toList with
  | [] => ""
  | c :: rest => String.ofList (Text.uppercaseChar c ++ rest)

end Playscript.Naming
