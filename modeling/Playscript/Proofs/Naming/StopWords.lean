import Playscript.Naming
import Playscript.Proofs.Text.Casing
import Playscript.Proofs.Text.Pieces

/-!
# Dropping stop words loses no noun

Before nouns are looked for in a sentence, its stop words are dropped. The
sentence is taken apart for this at its blanks, while nouns are looked for
between all characters that are neither letters, numbers nor apostrophes. So
what is dropped is a larger unit than what counts as a noun: one might think
that "(the)-menu" goes as a whole, or that "the" stays behind in "the'".

Neither happens. A blank is one of the characters that nouns are looked for
between, so the tokens of a sentence are those of its words
(`tokensIn_eq_flatMap_words`). A word is dropped for what it is without the
characters at its ends that are neither letters nor numbers, which belong to no
token (`tokensIn_trim`). If this is a stop word, it consists of letters, hence
it is the only token of the word; and every stop word is one of the words that
the lexicon knows to be no nouns.

Hence the nouns of a sentence are those that are left when its stop words are
dropped (`nouns_withoutStopWords`), and dropping them has no effect on names.
-/

namespace Playscript

/-! ## White space -/

namespace Text

/-- Whether no range of a set of code points meets one of another set. -/
def CodePoints.isApart (ranges others : CodePoints) : Bool :=
  ranges.all fun range => others.all fun other =>
    Nat.blt range.2 other.1 || Nat.blt other.2 range.1

/-- What lies in a set of code points lies in none that it does not meet. -/
theorem not_contains_of_isApart {ranges others : CodePoints}
    (h : ranges.isApart others = true) {c : Char} (hc : ranges.contains c = true) :
    others.contains c = false := by
  refine eq_false_of_ne_true fun hother => ?_
  obtain ⟨range, hrange, hfirst, hlast⟩ := CodePoints.contains_iff.mp hc
  obtain ⟨other, hmem, hfirst', hlast'⟩ := CodePoints.contains_iff.mp hother
  have hapart := List.all_eq_true.mp (List.all_eq_true.mp h range hrange) other hmem
  rw [Bool.or_eq_true, Nat.blt_eq, Nat.blt_eq] at hapart
  omega

/-- White space is neither a letter nor a number. -/
theorem isAlphanumeric_of_isBlank {c : Char} (hc : isBlank c = true) :
    isAlphanumeric c = false := by
  by_cases hascii : c.toNat < 0x80
  · exact forall_ascii (P := fun c => isBlank c = true → isAlphanumeric c = false)
      (by decide) hascii hc
  · have halphabetic : alphabeticRanges.contains c = false :=
      not_contains_of_isApart (by decide +kernel) hc
    have hnumeric : numericRanges.contains c = false :=
      not_contains_of_isApart (by decide +kernel) hc
    unfold isAlphanumeric isAlphabetic isNumeric
    rw [if_neg hascii, if_neg hascii, halphabetic, hnumeric]
    rfl

end Text

/-! ## Tokens -/

namespace Lexicon

/-- A character that stands in no token. -/
def isGap (c : Char) : Bool := !(Text.isAlphanumeric c || c == '\'')

/-- A character that is neither a letter nor a number is a gap, unless it is
an apostrophe. -/
theorem isGap_or_eq {c : Char} (hc : Text.isAlphanumeric c = false) :
    isGap c = true ∨ (isGap c = false ∧ (c == '\'') = true) := by
  unfold isGap
  rw [hc]
  cases c == '\'' <;> simp

/-- A blank is a gap. -/
theorem isGap_of_isBlank {c : Char} (hc : Text.isBlank c = true) : isGap c = true := by
  rcases isGap_or_eq (Text.isAlphanumeric_of_isBlank hc) with hgap | ⟨-, hquote⟩
  · exact hgap
  · rw [beq_iff_eq.mp hquote] at hc
    exact absurd hc (by decide)

/-- The tokens of a text that is given as a list of characters. -/
def tokensIn (cs : List Char) : List (List Char) :=
  ((Text.pieces isGap cs).map (Text.trim (· == '\''))).filter (· ≠ [])

/-- What gives nothing may be left out. -/
theorem flatMap_filter_of_eq_nil {α β : Type} {p : α → Bool} {f : α → List β}
    (h : ∀ a, p a = false → f a = []) (list : List α) :
    (list.filter p).flatMap f = list.flatMap f := by
  induction list with
  | nil => rfl
  | cons a list ih =>
    rw [List.filter_cons, List.flatMap_cons]
    split
    · rw [List.flatMap_cons, ih]
    · next ha => rw [ih, h a (eq_false_of_ne_true ha), List.nil_append]

/-- **Tokens are found on either side of a gap**, each by itself. -/
theorem tokensIn_append_gap {c : Char} (hc : isGap c = true) (cs rest : List Char) :
    tokensIn (cs ++ c :: rest) = tokensIn cs ++ tokensIn rest := by
  unfold tokensIn
  rw [Text.pieces_append_cons cs hc, List.map_append, List.filter_append]

/-- **The tokens of a text are those of its words.** -/
theorem tokensIn_eq_flatMap_words (cs : List Char) :
    tokensIn cs = (Text.words cs).flatMap tokensIn := by
  -- a piece that is no word is empty and has no tokens
  have hwords : (Text.words cs).flatMap tokensIn
      = (Text.pieces Text.isBlank cs).flatMap tokensIn :=
    flatMap_filter_of_eq_nil (fun piece hpiece => by
      have hnil : piece = [] := by simpa using hpiece
      rw [hnil]
      rfl) _
  rw [hwords]
  unfold tokensIn
  rw [Text.pieces_eq_flatMap (fun c hc => isGap_of_isBlank hc) cs, List.map_flatMap,
    List.filter_flatMap]

theorem tokensIn_intercalate (parts : List (List Char)) :
    tokensIn ([' '].intercalate parts) = parts.flatMap tokensIn := by
  induction parts with
  | nil => rfl
  | cons part parts ih =>
    cases parts with
    | nil => simp
    | cons next parts =>
      rw [List.intercalate_cons_cons, List.append_assoc, List.singleton_append,
        tokensIn_append_gap (isGap_of_isBlank (by decide)), ih]
      rfl

/-- A character that is neither a letter nor a number is in no token when it
begins a text. -/
theorem tokensIn_cons {c : Char} (hc : Text.isAlphanumeric c = false) (cs : List Char) :
    tokensIn (c :: cs) = tokensIn cs := by
  rcases isGap_or_eq hc with hgap | ⟨hgap, hquote⟩
  · exact tokensIn_append_gap hgap [] cs
  · unfold tokensIn
    rw [Text.pieces, hgap, if_neg Bool.false_ne_true]
    obtain ⟨piece, others, hpieces⟩ := Text.exists_pieces_eq_cons isGap cs
    have htrim : Text.trim (· == '\'') (c :: piece) = Text.trim (· == '\'') piece :=
      Text.trim_cons (by exact hquote) piece
    rw [hpieces, List.modifyHead_cons, List.map_cons, List.map_cons, htrim]

/-- Nor is it in a token when it ends a text. -/
theorem tokensIn_concat {c : Char} (hc : Text.isAlphanumeric c = false) (cs : List Char) :
    tokensIn (cs ++ [c]) = tokensIn cs := by
  rcases isGap_or_eq hc with hgap | ⟨hgap, hquote⟩
  · rw [tokensIn_append_gap hgap]
    exact List.append_nil _
  · obtain ⟨front, last, hcs, hconcat⟩ :=
      Text.exists_pieces_append cs (List.forall_mem_singleton.mpr hgap)
    have htrim : Text.trim (· == '\'') (last ++ [c]) = Text.trim (· == '\'') last :=
      Text.trim_concat (by exact hquote) last
    unfold tokensIn
    rw [hcs, hconcat, List.map_append, List.map_append, List.map_singleton, List.map_singleton,
      htrim]

/-- **What is neither a letter nor a number at the ends of a text is in no
token.** -/
theorem tokensIn_trim (cs : List Char) :
    tokensIn (Text.trim (fun c => !Text.isAlphanumeric c) cs) = tokensIn cs := by
  have hfront : tokensIn (cs.dropWhile fun c => !Text.isAlphanumeric c) = tokensIn cs := by
    induction cs with
    | nil => rfl
    | cons c cs ih =>
      rw [List.dropWhile_cons]
      split
      · next hc => rw [ih, tokensIn_cons (by simpa using hc)]
      · rfl
  have hend : ∀ ds : List Char,
      tokensIn (ds.rdropWhile fun c => !Text.isAlphanumeric c) = tokensIn ds := by
    intro ds
    induction ds using List.reverseRecOn with
    | nil => rfl
    | append_singleton ds d ih =>
      rw [List.rdropWhile_concat]
      split
      · next hd => rw [ih, tokensIn_concat (by simpa using hd)]
      · rfl
  exact (hend _).trans hfront

/-- A text of letters is its own only token. -/
theorem tokensIn_of_forall {cs : List Char} (hne : cs ≠ [])
    (h : ∀ c ∈ cs, Text.isAlphabetic c = true) : tokensIn cs = [cs] := by
  have hgap : ∀ c ∈ cs, isGap c = false := fun c hc => by simp [isGap, Text.isAlphanumeric, h c hc]
  have hquote : ∀ c ∈ cs, (c == '\'') = false := fun c hc => by
    refine beq_eq_false_iff_ne.mpr fun he => ?_
    rw [he] at hc
    exact absurd (h _ hc) (by decide)
  unfold tokensIn
  rw [Text.pieces_of_forall hgap, List.map_singleton, Text.trim_of_forall hquote,
    List.filter_singleton]
  simp [hne]

end Lexicon

/-! ## Stop words -/

namespace Naming

open Lexicon

/-- Stop words are written in small letters of ASCII, and each of them is
known to be no noun. -/
theorem of_mem_stopWords : ∀ word ∈ stopWords,
    word.toList.all Char.isLower = true ∧ isClosed word = true := by
  decide +kernel

/-- **A word that is dropped has no noun in it.** -/
theorem filter_isNoun_of_isStopWord {word : List Char} (h : isStopWord word = true) :
    (tokensIn word).filter isNoun = [] := by
  unfold isStopWord at h
  dsimp only at h
  rw [← tokensIn_trim]
  generalize Text.trim (fun c => !Text.isAlphanumeric c) word = bare at h ⊢
  obtain ⟨hsmall, hclosed⟩ := of_mem_stopWords _ (List.contains_iff_mem.mp h)
  unfold Text.lowercase at hsmall
  rw [String.toList_ofList, String.toList_ofList, List.all_eq_true] at hsmall
  by_cases hne : bare = []
  · rw [hne]
    rfl
  · have hnoun : isNoun bare = false := by simp [isNoun, hclosed]
    rw [tokensIn_of_forall hne (Text.isAlphabetic_of_lowercaseFrom hsmall),
      List.filter_singleton, hnoun]
    rfl

/-- **Dropping stop words loses no noun.** -/
theorem nouns_withoutStopWords (text : String) :
    nouns (withoutStopWords text) = nouns text := by
  unfold nouns withoutStopWords
  show ((tokensIn (String.ofList _).toList).filter isNoun).map String.ofList
    = ((tokensIn text.toList).filter isNoun).map String.ofList
  rw [String.toList_ofList, tokensIn_intercalate, tokensIn_eq_flatMap_words text.toList,
    List.filter_flatMap, List.filter_flatMap, flatMap_filter_of_eq_nil]
  intro word hword
  exact filter_isNoun_of_isStopWord (by simpa using hword)

/-- **Stop words make no difference to names.** The nouns of a text are those
that are left without its stop words; and if the text quotes nothing, or
nothing but the empty text, its short name is made of the first three of its
own nouns, or of all of the text when it has none. -/
theorem shortName_ignores_stopWords (text : String) :
    nouns (withoutStopWords text) = nouns text
      ∧ ((∀ quote, quoted? text = some quote → quote = "") →
        shortName nouns text
          = if nouns text = [] then camelCase text
            else camelCase (spaced ((nouns text).take 3))) := by
  refine ⟨nouns_withoutStopWords text, fun h => ?_⟩
  have hquote : (quoted? text).filter (· ≠ "") = none :=
    Option.filter_eq_none_iff.mpr fun quote hq => by simp [h quote hq]
  unfold shortName
  rw [hquote, nouns_withoutStopWords]
  cases nouns text with
  | nil => rfl
  | cons noun others => rfl

/-- A text with stop words among punctuation, which quotes the empty text. -/
def menuText : String := "(the) \"\" quick-Menu OF the' café isn't a MENU"

/-- The words "(the)", "OF", "the'" and "a" are dropped, and the nouns and the
name are what they would be with them. -/
theorem shortName_ignores_stopWords_menuText :
    withoutStopWords menuText = "\"\" quick-Menu café isn't MENU"
      ∧ nouns (withoutStopWords menuText) = nouns menuText
      ∧ nouns menuText = ["quick", "Menu", "café", "MENU"]
      ∧ (∀ quote, quoted? menuText = some quote → quote = "")
      ∧ shortName nouns menuText
        = (if nouns menuText = [] then camelCase menuText
          else camelCase (spaced ((nouns menuText).take 3)))
      ∧ shortName nouns menuText = "quickMenuCaf" := by
  have hquoted : quoted? menuText = some "" := by decide +kernel
  have hempty : ∀ quote, quoted? menuText = some quote → quote = "" := fun quote h => by
    rw [hquoted, Option.some.injEq] at h
    exact h.symm
  have hnouns : nouns menuText = ["quick", "Menu", "café", "MENU"] := by decide +kernel
  obtain ⟨hall, hname⟩ := shortName_ignores_stopWords menuText
  refine ⟨by decide +kernel, hall, hnouns, hempty, hname hempty, ?_⟩
  rw [hname hempty, hnouns, if_neg (List.cons_ne_nil _ _)]
  decide +kernel

end Naming

end Playscript
