import Mathlib.Data.List.Basic
import Playscript.Clue

/-!
# Clues stay where they are

What is found in a text is found again when something is written in front of
the text or behind it. For a phrase that may stand anywhere this is plain. A
phrase that must begin and end at the border of a word may lose a border to
what is written next to it, so a character is asked for between the two that
is no part of a word, which an edge then takes for the end of the text
(`Edge.Closes`). A clue of two phrases on one line keeps both of them and all
that stands between them.

A list of rules is tried in order. If each rule recognises whatever it
recognised before, the first one that does cannot move back: the position of
the rule that is taken for a text is no greater for a longer one
(`Rule.position_joined_le`). None of this depends on what the rules are.
-/

namespace Playscript

namespace Edge

/-- **A character that an edge takes for the end of a text.** -/
structure Closes (edge : Edge) (c : Char) : Prop where
  /-- In front of a place it counts as nothing. -/
  before : ∀ after, edge (some c) after = edge none after
  /-- Behind a place it counts as nothing. -/
  after : ∀ before, edge before (some c) = edge before none

theorem closes_anywhere (c : Char) : anywhere.Closes c := ⟨fun _ => rfl, fun _ => rfl⟩

/-- A word ends at a character that is no part of a word. -/
theorem closes_ofWord {c : Char} (hc : Text.isWordChar c = false) : ofWord.Closes c := by
  constructor
  · intro after
    simp [ofWord, hc]
  · intro before
    simp [ofWord, hc]

end Edge

namespace Clue

variable {edge : Edge} {stop : Char → Bool} {words : List Char} {c : Char}

/-! ## Occurrences -/

/-- **A phrase stands at the front of a text** and is allowed to begin and to
end there. -/
structure IsInFront (edge : Edge) (words : List Char) (before : Option Char)
    (text : List Char) : Prop where
  /-- The text begins with the phrase. -/
  isPrefix : words <+: text
  /-- The phrase may begin here. -/
  begins : edge before text.head? = true
  /-- The phrase may end where it ends. -/
  ends : edge words.getLast? (text.drop words.length).head? = true

/-- An occurrence is one in front of the text or one in the rest of it. -/
theorem mem_occurrences_cons {before : Option Char} {rest : List Char}
    {place : Option Char × List Char} :
    place ∈ occurrences edge stop words before (c :: rest)
      ↔ (IsInFront edge words before (c :: rest)
          ∧ place = (words.getLast?, (c :: rest).drop words.length))
        ∨ (stop c = false ∧ place ∈ occurrences edge stop words (some c) rest) := by
  have hfront : (words.isPrefixOf (c :: rest) && edge before (some c)
      && edge words.getLast? ((c :: rest).drop words.length).head?) = true
      ↔ IsInFront edge words before (c :: rest) := by
    simp only [Bool.and_eq_true, List.isPrefixOf_iff_prefix]
    exact ⟨fun h => ⟨h.1.1, h.1.2, h.2⟩, fun h => ⟨⟨h.isPrefix, h.begins⟩, h.ends⟩⟩
  have hothers : place ∈ (if stop c then [] else occurrences edge stop words (some c) rest)
      ↔ stop c = false ∧ place ∈ occurrences edge stop words (some c) rest := by
    cases stop c <;> simp
  rw [occurrences]
  by_cases h : IsInFront edge words before (c :: rest)
  · rw [if_pos (hfront.mpr h), List.mem_cons, hothers]
    simp only [h, true_and]
  · rw [if_neg (mt hfront.mp h), hothers]
    simp only [h, false_and, false_or]

/-- What stands in front of a text stands in front of a longer one. Where the
phrase ended the text, the character behind it counts as the end. -/
theorem IsInFront.append (hc : edge.Closes c) {before : Option Char} {text : List Char}
    (hne : text ≠ []) (h : IsInFront edge words before text) (far : List Char) :
    IsInFront edge words before (text ++ c :: far) := by
  refine ⟨h.isPrefix.trans (List.prefix_append _ _), ?_, ?_⟩
  · rw [List.head?_append_of_ne_nil _ hne]
    exact h.begins
  · have hend := h.ends
    rw [List.drop_append_of_le_length h.isPrefix.length_le]
    cases hafter : text.drop words.length with
    | nil =>
      rw [hafter] at hend
      exact (hc.after _).trans hend
    | cons d after =>
      rw [hafter] at hend
      exact hend

/-- **An occurrence is kept by what is written behind the text.** -/
theorem mem_occurrences_append (hc : edge.Closes c) {before : Option Char} {text : List Char}
    {place : Option Char × List Char} (h : place ∈ occurrences edge stop words before text)
    (far : List Char) :
    (place.1, place.2 ++ c :: far)
      ∈ occurrences edge stop words before (text ++ c :: far) := by
  induction text generalizing before with
  | nil => cases h
  | cons d text ih =>
    rw [List.cons_append, mem_occurrences_cons]
    rcases mem_occurrences_cons.mp h with ⟨hfront, rfl⟩ | ⟨hstop, hlater⟩
    · refine Or.inl ⟨hfront.append hc (List.cons_ne_nil d text) far, ?_⟩
      rw [← List.cons_append, List.drop_append_of_le_length hfront.isPrefix.length_le]
    · exact Or.inr ⟨hstop, ih hlater⟩

/-- **An occurrence is kept by what is written in front of the text**, if
nothing there stops the search. -/
theorem mem_occurrences_prepend (hc : edge.Closes c) {text : List Char}
    {place : Option Char × List Char} (h : place ∈ occurrences edge stop words none text)
    {near : List Char} (hnear : ∀ d ∈ near, stop d = false) (hstop : stop c = false)
    (before : Option Char) : place ∈ occurrences edge stop words before (near ++ c :: text) := by
  induction near generalizing before with
  | nil =>
    refine mem_occurrences_cons.mpr (Or.inr ⟨hstop, ?_⟩)
    cases text with
    | nil => cases h
    | cons d text =>
      refine mem_occurrences_cons.mpr ((mem_occurrences_cons.mp h).imp ?_ id)
      rintro ⟨hfront, hplace⟩
      exact ⟨⟨hfront.isPrefix, (hc.before _).trans hfront.begins, hfront.ends⟩, hplace⟩
  | cons d near ih =>
    obtain ⟨hd, hnear⟩ := List.forall_mem_cons.mp hnear
    exact mem_occurrences_cons.mpr (Or.inr ⟨hd, ih hnear (some d)⟩)

/-! ## Clues -/

section

variable {forms first second : List String} {text : List Char}

theorem mem_anyOccurrence {place : Option Char × List Char} :
    place ∈ anyOccurrence edge forms text
      ↔ ∃ form ∈ forms, place ∈ occurrences edge (fun _ => false) form.toList none text :=
  List.mem_flatMap

theorem isFound_phrase_iff : (Clue.phrase forms).isFound edge text = true
    ↔ ∃ place, place ∈ anyOccurrence edge forms text := by
  simp only [isFound, Bool.not_eq_true', List.isEmpty_eq_false_iff_exists_mem]

theorem isFound_inOrder_iff : (Clue.inOrder first second).isFound edge text = true
    ↔ ∃ place ∈ anyOccurrence edge first text, ∃ form ∈ second, ∃ next,
      next ∈ occurrences edge (· == '\n') form.toList place.1 place.2 := by
  simp only [isFound, List.any_eq_true, Bool.not_eq_true', List.isEmpty_eq_false_iff_exists_mem]

theorem mem_anyOccurrence_append (hc : edge.Closes c) {place : Option Char × List Char}
    (h : place ∈ anyOccurrence edge forms text) (far : List Char) :
    (place.1, place.2 ++ c :: far) ∈ anyOccurrence edge forms (text ++ c :: far) := by
  obtain ⟨form, hform, hplace⟩ := mem_anyOccurrence.mp h
  exact mem_anyOccurrence.mpr ⟨form, hform, mem_occurrences_append hc hplace far⟩

theorem mem_anyOccurrence_prepend (hc : edge.Closes c) {place : Option Char × List Char}
    (h : place ∈ anyOccurrence edge forms text) (near : List Char) :
    place ∈ anyOccurrence edge forms (near ++ c :: text) := by
  obtain ⟨form, hform, hplace⟩ := mem_anyOccurrence.mp h
  exact mem_anyOccurrence.mpr
    ⟨form, hform, mem_occurrences_prepend hc hplace (fun _ _ => rfl) rfl none⟩

/-- **A clue is kept by what is written behind the text.** -/
theorem isFound_append (hc : edge.Closes c) {clue : Clue} (h : clue.isFound edge text = true)
    (far : List Char) : clue.isFound edge (text ++ c :: far) = true := by
  cases clue with
  | phrase forms =>
    obtain ⟨place, hplace⟩ := isFound_phrase_iff.mp h
    exact isFound_phrase_iff.mpr ⟨_, mem_anyOccurrence_append hc hplace far⟩
  | inOrder first second =>
    obtain ⟨place, hplace, form, hform, next, hnext⟩ := isFound_inOrder_iff.mp h
    exact isFound_inOrder_iff.mpr ⟨_, mem_anyOccurrence_append hc hplace far, form, hform, _,
      mem_occurrences_append hc hnext far⟩

/-- **A clue is kept by what is written in front of the text.** -/
theorem isFound_prepend (hc : edge.Closes c) {clue : Clue} (h : clue.isFound edge text = true)
    (near : List Char) : clue.isFound edge (near ++ c :: text) = true := by
  cases clue with
  | phrase forms =>
    obtain ⟨place, hplace⟩ := isFound_phrase_iff.mp h
    exact isFound_phrase_iff.mpr ⟨place, mem_anyOccurrence_prepend hc hplace near⟩
  | inOrder first second =>
    -- the second phrase is looked for behind the first, where nothing changed
    obtain ⟨place, hplace, hsecond⟩ := isFound_inOrder_iff.mp h
    exact isFound_inOrder_iff.mpr ⟨place, mem_anyOccurrence_prepend hc hplace near, hsecond⟩

end

end Clue

/-! ## Rules -/

namespace Rule

variable {α : Type} {edge : Edge} {c : Char} {text : List Char}

theorem recognises_append (hc : edge.Closes c) {rule : Rule α}
    (h : rule.recognises edge text = true) (far : List Char) :
    rule.recognises edge (text ++ c :: far) = true := by
  obtain ⟨clue, hclue, hfound⟩ := List.any_eq_true.mp h
  exact List.any_eq_true.mpr ⟨clue, hclue, Clue.isFound_append hc hfound far⟩

theorem recognises_prepend (hc : edge.Closes c) {rule : Rule α}
    (h : rule.recognises edge text = true) (near : List Char) :
    rule.recognises edge (near ++ c :: text) = true := by
  obtain ⟨clue, hclue, hfound⟩ := List.any_eq_true.mp h
  exact List.any_eq_true.mpr ⟨clue, hclue, Clue.isFound_prepend hc hfound near⟩

/-- **The position of the rule that is taken for a text**, which is behind all
rules where none is. -/
def position (edge : Edge) (rules : List (Rule α)) (text : List Char) : Nat :=
  rules.findIdx (·.recognises edge text)

/-- The verdict on a text is that of the rule at its position. -/
theorem first?_eq_getElem? (rules : List (Rule α)) :
    first? edge rules text = rules[position edge rules text]?.map (·.verdict) := by
  unfold first? position
  rw [List.find?_eq_getElem?_findIdx]

/-- **The rule that is taken for two texts with an end of words between them
stands no later than those taken for each of them.** -/
theorem position_joined_le (hc : edge.Closes c) (rules : List (Rule α)) (near far : List Char) :
    position edge rules (near ++ c :: far)
      ≤ min (position edge rules near) (position edge rules far) :=
  Nat.le_min.mpr
    ⟨List.findIdx_le_findIdx fun _ _ h => recognises_append hc h far,
      List.findIdx_le_findIdx fun _ _ h => recognises_prepend hc h near⟩

end Rule

end Playscript
