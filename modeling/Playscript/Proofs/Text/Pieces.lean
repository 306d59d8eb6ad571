import Mathlib.Data.List.DropRight
import Playscript.Text.Words

/-!
# Cutting a text into pieces

Where a text is cut depends on a class of characters only, so pieces obey a
few laws whatever the class is. What stands on either side of a cut is cut
apart by itself (`pieces_append_cons`), pieces that are put together are cut
apart again (`pieces_intercalate`), and a text may be cut at fewer characters
first and at the rest of them later (`pieces_eq_flatMap`).

Characters may also be replaced before or after the cutting, if the class
cannot tell them from what they are replaced by (`pieces_map`, `trim_map`).
-/

namespace Playscript.Text

/-! ## Pieces -/

section

variable {cut : Char → Bool}

/-- There is a first piece. -/
theorem exists_pieces_eq_cons (cut : Char → Bool) (cs : List Char) :
    ∃ piece others, pieces cut cs = piece :: others :=
  List.exists_cons_of_ne_nil (pieces_ne_nil cut cs)

/-- A text that is cut nowhere is one piece. -/
theorem pieces_of_forall {cs : List Char} (h : ∀ c ∈ cs, cut c = false) :
    pieces cut cs = [cs] := by
  induction cs with
  | nil => rfl
  | cons c cs ih =>
    obtain ⟨hc, hcs⟩ := List.forall_mem_cons.mp h
    rw [pieces, hc, if_neg Bool.false_ne_true, ih hcs]
    rfl

/-- The pieces in front of a cut, and those behind it. -/
theorem pieces_append_cons (cs : List Char) {c : Char} (hc : cut c = true) (rest : List Char) :
    pieces cut (cs ++ c :: rest) = pieces cut cs ++ pieces cut rest := by
  induction cs with
  | nil =>
    show (if cut c then [] :: pieces cut rest else _) = _
    exact if_pos hc
  | cons d cs ih =>
    rw [List.cons_append, pieces, pieces, ih]
    split
    · rfl
    · obtain ⟨piece, others, hpieces⟩ := exists_pieces_eq_cons cut cs
      rw [hpieces]
      rfl

/-- A character that is not cut at belongs to the last piece. -/
theorem getLast?_pieces_concat (cs : List Char) {c : Char} (hc : cut c = false) :
    (pieces cut (cs ++ [c])).getLast? ≠ some [] := by
  induction cs with
  | nil =>
    rw [List.nil_append, pieces_of_forall (List.forall_mem_singleton.mpr hc)]
    exact fun h => List.cons_ne_nil c [] (Option.some.inj h)
  | cons d cs ih =>
    rw [List.cons_append, pieces]
    obtain ⟨piece, others, hpieces⟩ := exists_pieces_eq_cons cut (cs ++ [c])
    rw [hpieces] at ih ⊢
    cases others with
    | nil =>
      split
      · exact ih
      · exact fun h => List.cons_ne_nil d piece (Option.some.inj h)
    | cons next others =>
      split
      · exact ih
      · exact ih

/-- No piece is cut any further. -/
theorem cut_of_mem_pieces {cs piece : List Char} (h : piece ∈ pieces cut cs) {c : Char}
    (hc : c ∈ piece) : cut c = false := by
  induction cs generalizing piece with
  | nil =>
    rw [List.mem_singleton.mp h] at hc
    cases hc
  | cons d cs ih =>
    rw [pieces] at h
    split at h
    · rcases List.mem_cons.mp h with rfl | h
      · cases hc
      · exact ih h hc
    · next hd =>
      obtain ⟨first, others, hpieces⟩ := exists_pieces_eq_cons cut cs
      rw [hpieces] at ih h
      rw [List.modifyHead_cons] at h
      rcases List.mem_cons.mp h with rfl | h
      · rcases List.mem_cons.mp hc with rfl | hc
        · simpa using hd
        · exact ih List.mem_cons_self hc
      · exact ih (List.mem_cons_of_mem _ h) hc

/-- A character of a piece is one of the text. -/
theorem mem_of_mem_pieces {cs piece : List Char}
    (h : piece ∈ pieces cut cs) : piece ⊆ cs := by
  induction cs generalizing piece with
  | nil =>
    rw [List.mem_singleton.mp h]
    exact List.nil_subset _
  | cons d cs ih =>
    rw [pieces] at h
    split at h
    · rcases List.mem_cons.mp h with rfl | h
      · exact List.nil_subset _
      · exact List.subset_cons_of_subset d (ih h)
    · obtain ⟨first, others, hpieces⟩ := exists_pieces_eq_cons cut cs
      rw [hpieces] at ih h
      rw [List.modifyHead_cons] at h
      rcases List.mem_cons.mp h with rfl | h
      · exact List.cons_subset_cons d (ih List.mem_cons_self)
      · exact List.subset_cons_of_subset d (ih (List.mem_cons_of_mem _ h))

/-- A character of a text that is not cut at is one of a piece. -/
theorem exists_mem_pieces {cs : List Char} {c : Char} (hc : cut c = false) (h : c ∈ cs) :
    ∃ piece ∈ pieces cut cs, c ∈ piece := by
  induction cs with
  | nil => cases h
  | cons d cs ih =>
    rw [pieces]
    rcases List.mem_cons.mp h with rfl | h
    · rw [hc, if_neg Bool.false_ne_true]
      obtain ⟨first, others, hpieces⟩ := exists_pieces_eq_cons cut cs
      rw [hpieces]
      exact ⟨c :: first, List.mem_cons_self, List.mem_cons_self⟩
    · obtain ⟨piece, hpiece, hmem⟩ := ih h
      split
      · exact ⟨piece, List.mem_cons_of_mem _ hpiece, hmem⟩
      · obtain ⟨first, others, hpieces⟩ := exists_pieces_eq_cons cut cs
        rw [hpieces] at hpiece ⊢
        rcases List.mem_cons.mp hpiece with rfl | hpiece
        · exact ⟨d :: piece, List.mem_cons_self, List.mem_cons_of_mem _ hmem⟩
        · exact ⟨piece, List.mem_cons_of_mem _ hpiece, hmem⟩

/-- **Pieces that are put together are cut apart again.** -/
theorem pieces_intercalate {c : Char} (hc : cut c = true) {parts : List (List Char)}
    (hne : parts ≠ []) (h : ∀ part ∈ parts, ∀ d ∈ part, cut d = false) :
    pieces cut ([c].intercalate parts) = parts := by
  induction parts with
  | nil => exact absurd rfl hne
  | cons part parts ih =>
    obtain ⟨hpart, hparts⟩ := List.forall_mem_cons.mp h
    cases parts with
    | nil =>
      rw [List.intercalate_singleton]
      exact pieces_of_forall hpart
    | cons next parts =>
      rw [List.intercalate_cons_cons, List.append_assoc, List.singleton_append,
        pieces_append_cons _ hc, pieces_of_forall hpart, ih (List.cons_ne_nil _ _) hparts]
      rfl

/-- **Cutting in two steps.** A text may be cut at some of the characters
first, and then each piece at all of them. -/
theorem pieces_eq_flatMap {first : Char → Bool} (h : ∀ c, first c = true → cut c = true)
    (cs : List Char) : pieces cut cs = (pieces first cs).flatMap (pieces cut) := by
  induction cs with
  | nil => rfl
  | cons c cs ih =>
    rw [pieces, pieces]
    obtain ⟨piece, others, hpieces⟩ := exists_pieces_eq_cons first cs
    rw [hpieces, List.flatMap_cons] at ih
    rw [hpieces]
    by_cases hfirst : first c = true
    · rw [if_pos hfirst, if_pos (h c hfirst), List.flatMap_cons, List.flatMap_cons, ih]
      rfl
    · rw [if_neg hfirst, List.modifyHead_cons, List.flatMap_cons, pieces, ih]
      split
      · rfl
      · obtain ⟨part, parts, hinner⟩ := exists_pieces_eq_cons cut piece
        rw [hinner]
        rfl

/-- What is not cut at and stands behind a text belongs to its last piece. -/
theorem exists_pieces_append (cs : List Char) {ds : List Char} (h : ∀ d ∈ ds, cut d = false) :
    ∃ front last, pieces cut cs = front ++ [last]
      ∧ pieces cut (cs ++ ds) = front ++ [last ++ ds] := by
  induction cs with
  | nil => exact ⟨[], [], rfl, pieces_of_forall h⟩
  | cons c cs ih =>
    obtain ⟨front, last, hcs, happend⟩ := ih
    rw [List.cons_append, pieces, pieces, hcs, happend]
    split
    · exact ⟨[] :: front, last, rfl, rfl⟩
    · cases front with
      | nil => exact ⟨[], c :: last, rfl, rfl⟩
      | cons piece front => exact ⟨(c :: piece) :: front, last, rfl, rfl⟩

/-- Characters may be replaced before the cutting or after it. -/
theorem pieces_map {f : Char → Char} (h : ∀ c, cut (f c) = cut c) (cs : List Char) :
    pieces cut (cs.map f) = (pieces cut cs).map (List.map f) := by
  induction cs with
  | nil => rfl
  | cons c cs ih =>
    rw [List.map_cons, pieces, pieces, h, ih]
    split
    · rfl
    · obtain ⟨piece, others, hpieces⟩ := exists_pieces_eq_cons cut cs
      rw [hpieces]
      rfl

/-- Characters may be replaced before or after pieces are put together. -/
theorem map_intercalate {α β : Type} (f : α → β) (sep : List α) (parts : List (List α)) :
    (sep.intercalate parts).map f = (sep.map f).intercalate (parts.map (List.map f)) := by
  induction parts with
  | nil => rfl
  | cons part parts ih =>
    cases parts with
    | nil => simp only [List.intercalate_singleton, List.map_cons, List.map_nil]
    | cons next parts =>
      simp only [List.intercalate_cons_cons, List.map_append, List.map_cons] at ih ⊢
      rw [ih]

end

/-! ## Trimming -/

section

variable {drop : Char → Bool}

/-- A character of the class is taken off the front. -/
theorem trim_cons {c : Char} (hc : drop c = true) (cs : List Char) :
    trim drop (c :: cs) = trim drop cs := by
  unfold trim
  rw [List.dropWhile_cons_of_pos hc]

/-- A character of the class is taken off the end. -/
theorem trim_concat {c : Char} (hc : drop c = true) (cs : List Char) :
    trim drop (cs ++ [c]) = trim drop cs := by
  unfold trim
  rw [List.dropWhile_append]
  split
  · next h =>
    rw [List.isEmpty_iff.mp h, List.dropWhile_cons_of_pos hc]
    rfl
  · exact List.rdropWhile_concat_pos drop _ c hc

/-- A text without characters of the class is not trimmed. -/
theorem trim_of_forall {cs : List Char} (h : ∀ c ∈ cs, drop c = false) : trim drop cs = cs := by
  have hfront : cs.dropWhile drop = cs := List.dropWhile_eq_self_iff.mpr fun hl => by
    simpa using h _ (List.getElem_mem hl)
  unfold trim
  rw [hfront]
  exact List.rdropWhile_eq_self_iff.mpr fun hl => by simpa using h _ (List.getLast_mem hl)

/-- Characters may be replaced before the trimming or after it. -/
theorem trim_map {f : Char → Char} (h : ∀ c, drop (f c) = drop c) (cs : List Char) :
    trim drop (cs.map f) = (trim drop cs).map f := by
  have hcomp : drop ∘ f = drop := funext h
  unfold trim trimEnd
  rw [List.dropWhile_map, ← List.map_reverse, List.dropWhile_map, ← List.map_reverse, hcomp]

end

end Playscript.Text
