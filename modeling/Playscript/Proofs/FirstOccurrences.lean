import Mathlib.Data.List.Basic

/-!
# First occurrences

Several lists are reduced to the first occurrence of each of their elements:
the locators of a step, the selector names of a map. What is meant by that
fits in two conditions (`IsFirstOccurrences`): nothing is lost or added, and
the elements stand in the order in which they first appeared. The second one
leaves no room for repetitions, so that there are none is a consequence
(`IsFirstOccurrences.nodup`) and not a third condition.

That a list is a sublist without repetitions would be too weak a reading: of
`[a, b, a]` both `[a, b]` and `[b, a]` are such sublists, and only the former
is meant.
-/

namespace Playscript

variable {α : Type} [BEq α] [LawfulBEq α]

/-- **The first occurrences of a list**: its elements, in the order of their
first positions. -/
structure IsFirstOccurrences (list firsts : List α) : Prop where
  /-- Nothing is lost or added. -/
  mem_iff : ∀ x, x ∈ firsts ↔ x ∈ list
  /-- First positions increase. -/
  ordered : firsts.Pairwise fun x y => list.idxOf x < list.idxOf y

omit [LawfulBEq α] in
/-- No element stands among the first occurrences twice. -/
theorem IsFirstOccurrences.nodup {list firsts : List α} (h : IsFirstOccurrences list firsts) :
    firsts.Nodup := by
  refine h.ordered.imp fun {x y} hlt he => ?_
  rw [he] at hlt
  exact Nat.lt_irrefl _ hlt

/-- The first of a list is the first of its first occurrences. -/
theorem IsFirstOccurrences.head?_eq {x : α} {rest firsts : List α}
    (h : IsFirstOccurrences (x :: rest) firsts) : firsts.head? = some x := by
  cases firsts with
  | nil => exact absurd ((h.mem_iff x).mpr List.mem_cons_self) List.not_mem_nil
  | cons y firsts =>
    rcases List.mem_cons.mp ((h.mem_iff x).mpr List.mem_cons_self) with he | hx
    · rw [he, List.head?_cons]
    · -- `x` has position 0, so nothing stands before it
      have hlt := (List.pairwise_cons.mp h.ordered).1 x hx
      rw [List.idxOf_cons_self] at hlt
      exact absurd hlt (Nat.not_lt_zero _)

/-- **One more element** is a first occurrence unless it has occurred. -/
theorem IsFirstOccurrences.concat {list firsts : List α} (h : IsFirstOccurrences list firsts)
    (x : α) :
    IsFirstOccurrences (list ++ [x]) (if firsts.elem x then firsts else firsts ++ [x]) := by
  -- the elements that were there keep their positions
  have hkept : firsts.Pairwise fun y z => (list ++ [x]).idxOf y < (list ++ [x]).idxOf z := by
    refine h.ordered.imp_of_mem fun {y z} hy hz hlt => ?_
    rwa [List.idxOf_append_of_mem ((h.mem_iff y).mp hy),
      List.idxOf_append_of_mem ((h.mem_iff z).mp hz)]
  split
  · next hx =>
    refine ⟨fun y => ?_, hkept⟩
    rw [List.mem_append, List.mem_singleton, ← h.mem_iff y, or_iff_left_of_imp]
    rintro rfl
    exact List.elem_iff.mp hx
  · next hx =>
    have hnew : x ∉ list := fun hm => hx (List.elem_iff.mpr ((h.mem_iff x).mpr hm))
    refine ⟨fun y => by rw [List.mem_append, List.mem_append, h.mem_iff y],
      List.pairwise_append.mpr ⟨hkept, List.pairwise_singleton _ _, fun y hy z hz => ?_⟩⟩
    rw [List.mem_singleton.mp hz, List.idxOf_append_of_mem ((h.mem_iff y).mp hy),
      List.idxOf_append_of_notMem hnew, List.idxOf_cons_self]
    exact List.idxOf_lt_length_of_mem ((h.mem_iff y).mp hy)

/-- Dropping other elements does not change which of two comes first. -/
theorem idxOf_lt_of_filter {p : α → Bool} {x y : α} (hx : p x = true) (hy : p y = true)
    {list : List α} (h : (list.filter p).idxOf x < (list.filter p).idxOf y) :
    list.idxOf x < list.idxOf y := by
  induction list with
  | nil => exact h
  | cons a list ih =>
    by_cases ha : p a = true
    · rw [List.filter_cons_of_pos ha] at h
      by_cases hax : a = x
      · rw [hax] at h ⊢
        have hxy : x ≠ y := by
          rintro rfl
          exact Nat.lt_irrefl _ h
        rw [List.idxOf_cons_self, List.idxOf_cons_ne _ hxy]
        exact Nat.succ_pos _
      · by_cases hay : a = y
        · rw [hay, List.idxOf_cons_self] at h
          exact absurd h (Nat.not_lt_zero _)
        · rw [List.idxOf_cons_ne _ hax, List.idxOf_cons_ne _ hay] at h ⊢
          exact Nat.succ_lt_succ (ih (Nat.lt_of_succ_lt_succ h))
    · rw [List.filter_cons_of_neg ha] at h
      have hax : a ≠ x := by
        rintro rfl
        exact ha hx
      have hay : a ≠ y := by
        rintro rfl
        exact ha hy
      rw [List.idxOf_cons_ne _ hax, List.idxOf_cons_ne _ hay]
      exact Nat.succ_lt_succ (ih h)

/-- **Erasing duplicates leaves the first occurrences.** -/
theorem isFirstOccurrences_eraseDups (list : List α) :
    IsFirstOccurrences list list.eraseDups := by
  refine ⟨fun x => List.mem_eraseDups, ?_⟩
  match list with
  | [] => exact List.Pairwise.nil
  | a :: rest =>
    -- the recursion drops `a` from the rest before it goes on, so positions
    -- are compared in the shorter list first
    have ih := (isFirstOccurrences_eraseDups (rest.filter (!· == a))).ordered
    rw [List.eraseDups_cons]
    have hne : ∀ y ∈ (rest.filter (!· == a)).eraseDups, (!y == a) = true := fun y hy =>
      (List.mem_filter.mp (List.mem_eraseDups.mp hy)).2
    refine List.pairwise_cons.mpr ⟨fun y hy => ?_, ih.imp_of_mem fun {x y} hx hy hlt => ?_⟩
    · have hay : a ≠ y := by
        rintro rfl
        simpa using hne a hy
      rw [List.idxOf_cons_self, List.idxOf_cons_ne _ hay]
      exact Nat.succ_pos _
    · refine @idxOf_lt_of_filter _ _ _ (!· == a) x y (hne x hx) (hne y hy) _ ?_
      rwa [List.filter_cons_of_neg (by simp)]
termination_by list.length
decreasing_by exact Nat.lt_succ_of_le (List.length_filter_le _ _)

/-- A list without repetitions is left as it is. -/
theorem eraseDups_of_nodup {list : List α} (h : list.Nodup) : list.eraseDups = list := by
  induction list with
  | nil => rfl
  | cons a list ih =>
    obtain ⟨ha, hlist⟩ := List.nodup_cons.mp h
    have hkept : list.filter (!· == a) = list := List.filter_eq_self.mpr fun b hb => by
      have hne : b ≠ a := fun he => ha (he ▸ hb)
      simpa using hne
    rw [List.eraseDups_cons, hkept, ih hlist]

/-- It is the list of its own first occurrences. -/
theorem isFirstOccurrences_of_nodup {list : List α} (h : list.Nodup) :
    IsFirstOccurrences list list := by
  have hfirsts := isFirstOccurrences_eraseDups list
  rwa [eraseDups_of_nodup h] at hfirsts

/-- An element behind a list is a first occurrence unless it is in the
list. -/
theorem eraseDups_concat (list : List α) (x : α) :
    (list ++ [x]).eraseDups = if list.elem x then list.eraseDups else list.eraseDups ++ [x] := by
  rw [List.eraseDups_append, List.removeAll, List.filter_cons, List.filter_nil]
  cases list.elem x with
  | true => exact List.append_nil _
  | false => rfl

end Playscript
