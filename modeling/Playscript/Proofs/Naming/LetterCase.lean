import Playscript.Naming
import Playscript.Proofs.Text.Casing
import Playscript.Proofs.Text.Pieces

/-!
# Names do not depend on letter case

On the way from a sentence to its name, texts are cut, trimmed and looked up.
Cuts and trims are made at characters that are no letters, and words are looked
up in lower case, so a sentence in lower case takes the same way: what is kept
of it is what is kept of the sentence, in lower case. Only the last step looks
at the letters themselves. Camel case writes each of them large or small as the
place asks for, so it forgets how they were written (`camelCase_toLower`), and
with them the name does (`shortName_toLower`).

How nouns are found is a parameter of names. All that is asked of it is that
letter case makes no difference to which words it finds (`IgnoresCase`), which
is so for the lexicon (`ignoresCase_nouns`).
-/

namespace Playscript

/-- A text in lower case, as a list of characters. -/
theorem toList_toLower (s : String) : s.toLower.toList = s.toList.map Char.toLower :=
  String.toList_map

/-- Two texts are one in lower case when their characters are. -/
theorem toLower_eq_iff {s t : String} :
    s.toLower = t.toLower ↔ s.toList.map Char.toLower = t.toList.map Char.toLower := by
  rw [← String.toList_inj, toList_toLower, toList_toLower]

theorem toLower_ofList (cs : List Char) :
    (String.ofList cs).toLower = String.ofList (cs.map Char.toLower) := by
  rw [← String.toList_inj, toList_toLower, String.toList_ofList, String.toList_ofList]

/-- **A way to find nouns to which letter case makes no difference**: in lower
case the same words are found. -/
def IgnoresCase (nouns : NounFinder) : Prop :=
  ∀ sentence : String, nouns sentence.toLower = (nouns sentence).map String.toLower

/-! ## Nouns -/

namespace Lexicon

theorem tokens_toLower (sentence : String) :
    tokens sentence.toLower = (tokens sentence).map (List.map Char.toLower) := by
  have hquote : ∀ c : Char, (c.toLower == '\'') = (c == '\'') :=
    Text.apply_toLower (f := (· == '\'')) (by decide)
  have htrim : Text.trim (· == '\'') ∘ List.map Char.toLower
      = List.map Char.toLower ∘ Text.trim (· == '\'') := funext (Text.trim_map hquote)
  unfold tokens
  rw [toList_toLower, Text.pieces_map (fun c => by rw [Text.isAlphanumeric_toLower, hquote]),
    List.map_map, htrim, ← List.map_map, List.filter_map]
  simp only [Function.comp_def, ne_eq, List.map_eq_nil_iff]

theorem isNoun_map_toLower (token : List Char) :
    isNoun (token.map Char.toLower) = isNoun token := by
  unfold isNoun
  rw [← toLower_ofList, Text.lowercase_toLower, List.all_map]
  simp only [Function.comp_def, Text.isAlphabetic_toLower]

/-- **Letter case makes no difference to the lexicon.** -/
theorem ignoresCase_nouns : IgnoresCase nouns := by
  intro sentence
  have hnoun : isNoun ∘ List.map Char.toLower = isNoun := funext isNoun_map_toLower
  have hwrite : String.ofList ∘ List.map Char.toLower = String.toLower ∘ String.ofList :=
    funext fun token => (toLower_ofList token).symm
  unfold nouns
  rw [tokens_toLower, List.filter_map, hnoun, List.map_map, List.map_map, hwrite]

end Lexicon

namespace Naming

/-! ## What a sentence quotes -/

/-- A text in lower case quotes what the text quotes, in lower case. -/
theorem quoted?_toLower (text : String) :
    quoted? text.toLower = (quoted? text).map String.toLower := by
  have hquote : ∀ c : Char, (c.toLower = '"') = (c = '"') :=
    Text.apply_toLower (f := fun c => c = '"') (by decide)
  have hother : (fun c : Char => decide (c ≠ '"')) ∘ Char.toLower = fun c => decide (c ≠ '"') :=
    funext fun c => by simp only [Function.comp_apply, ne_eq, hquote]
  have hcloses : ∀ rest : List Char, (rest.map Char.toLower).contains '"' = rest.contains '"' :=
    fun rest => by
      rw [Bool.eq_iff_iff]
      simp only [List.contains_iff_mem, List.mem_map, hquote, exists_eq_right]
  unfold quoted?
  rw [toList_toLower, List.dropWhile_map, hother]
  cases text.toList.dropWhile (fun c => decide (c ≠ '"')) with
  | nil => rfl
  | cons c rest =>
    simp only [List.map_cons, hcloses, List.takeWhile_map, hother]
    split
    · rw [Option.map_some, toLower_ofList]
    · rfl

/-- Only the empty text is empty in lower case. -/
theorem filter_map_toLower (quote : Option String) :
    (quote.map String.toLower).filter (· ≠ "")
      = (quote.filter (· ≠ "")).map String.toLower := by
  rw [Option.filter_map]
  simp only [Function.comp_def, ne_eq, ← String.toList_eq_nil_iff, toList_toLower,
    List.map_eq_nil_iff]

/-! ## Stop words -/

theorem isStopWord_map_toLower (word : List Char) :
    isStopWord (word.map Char.toLower) = isStopWord word := by
  unfold isStopWord
  rw [Text.trim_map (fun c => by rw [Text.isAlphanumeric_toLower])]
  dsimp only
  rw [← toLower_ofList, Text.lowercase_toLower]

theorem words_map_toLower (cs : List Char) :
    Text.words (cs.map Char.toLower) = (Text.words cs).map (List.map Char.toLower) := by
  unfold Text.words
  rw [Text.pieces_map Text.isBlank_toLower, List.filter_map]
  simp only [Function.comp_def, ne_eq, List.map_eq_nil_iff]

/-- The same words are dropped in lower case. -/
theorem withoutStopWords_toLower (text : String) :
    withoutStopWords text.toLower = (withoutStopWords text).toLower := by
  have hstop : (fun word => !isStopWord word) ∘ List.map Char.toLower
      = fun word => !isStopWord word := funext fun word => by
    rw [Function.comp_apply, isStopWord_map_toLower]
  unfold withoutStopWords
  rw [toList_toLower, words_map_toLower, List.filter_map, hstop]
  dsimp only
  rw [toLower_ofList, Text.map_intercalate]
  rfl

/-! ## Camel case -/

/-- Camel case writes every letter as its place asks for. -/
theorem camelFrom_map_toLower (started broken : Bool) (cs : List Char) :
    camelFrom started broken (cs.map Char.toLower) = camelFrom started broken cs := by
  have hsmall : ∀ c : Char, c.toLower.toLower = c.toLower :=
    Text.apply_toLower (f := Char.toLower) (by decide)
  induction cs generalizing started broken with
  | nil => rfl
  | cons c cs ih =>
    simp only [List.map_cons, camelFrom, Text.isAlphanum_toLower, Text.toUpper_toLower, hsmall, ih]

/-- **Camel case forgets how the letters were written.** -/
theorem camelCase_toLower (text : String) : camelCase text.toLower = camelCase text := by
  unfold camelCase
  rw [toList_toLower, camelFrom_map_toLower]

theorem spaced_map_toLower (parts : List String) :
    spaced (parts.map String.toLower) = (spaced parts).toLower := by
  have hparts : String.toList ∘ String.toLower = List.map Char.toLower ∘ String.toList :=
    funext toList_toLower
  unfold spaced
  rw [List.map_map, hparts, ← List.map_map, toLower_ofList, Text.map_intercalate]
  rfl

/-! ## Short names -/

/-- **The short name of a sentence does not depend on letter case.** -/
theorem shortName_toLower {nouns : NounFinder} (h : IgnoresCase nouns) (text : String) :
    shortName nouns text.toLower = shortName nouns text := by
  unfold shortName
  rw [quoted?_toLower, filter_map_toLower, withoutStopWords_toLower, h]
  cases (quoted? text).filter fun quote => decide (quote ≠ "") with
  | some quote => exact camelCase_toLower quote
  | none =>
    cases nouns (withoutStopWords text) with
    | nil => exact camelCase_toLower text
    | cons noun others =>
      show camelCase (spaced (((noun :: others).map String.toLower).take maxNouns)) = _
      rw [← List.map_take, spaced_map_toLower, camelCase_toLower]

end Naming

end Playscript
