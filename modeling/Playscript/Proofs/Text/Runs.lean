import Playscript.Proofs.Text.Pieces

/-!
# Runs of a class of characters

The longest runs of a class in a text can be said without saying how they are
found: they stand in order, each consists of characters of the class, and what
is before, between and behind them does not (`AreRuns`). It is not enough that
every run is made of the class and that nothing else of the class is left. Such
runs could be cut short, with the next one beginning where they end, so a run
ends only where the text does or where another character stands.

This leaves one list of runs for a text and no more: the pieces between the
characters of other classes, without those that are empty (`areRuns_iff`).
-/

namespace Playscript.Text

/-- **The longest runs of a class in a text**, in order. -/
inductive AreRuns (keep : Char → Bool) : List Char → List (List Char) → Prop where
  /-- A text without characters of the class has no runs. -/
  | none {gap : List Char} (hgap : ∀ c ∈ gap, keep c = false) : AreRuns keep gap []
  /-- The first run stands behind a gap, perhaps an empty one, and goes on as
  long as there are characters of the class. -/
  | next {gap run rest : List Char} {others : List (List Char)}
      (hgap : ∀ c ∈ gap, keep c = false) (hne : run ≠ []) (hrun : ∀ c ∈ run, keep c = true)
      (hend : rest.head?.any keep = false) (hrest : AreRuns keep rest others) :
      AreRuns keep (gap ++ (run ++ rest)) (run :: others)

variable {keep : Char → Bool}

/-! ## There are runs -/

/-- A character of another class in front makes a gap longer. -/
theorem AreRuns.cons_gap {cs : List Char} {parts : List (List Char)} (h : AreRuns keep cs parts)
    {c : Char} (hc : keep c = false) : AreRuns keep (c :: cs) parts := by
  cases h with
  | none hgap => exact .none (List.forall_mem_cons.mpr ⟨hc, hgap⟩)
  | next hgap hne hrun hend hrest =>
    exact .next (List.forall_mem_cons.mpr ⟨hc, hgap⟩) hne hrun hend hrest

/-- A character of the class in front makes the first run longer, or is a run
by itself when a gap follows. -/
theorem AreRuns.exists_cons {cs : List Char} {parts : List (List Char)}
    (h : AreRuns keep cs parts) {c : Char} (hc : keep c = true) :
    ∃ parts, AreRuns keep (c :: cs) parts := by
  have hnogap : ∀ d ∈ [], keep d = false := List.forall_mem_nil _
  by_cases hhead : cs.head?.any keep = true
  · cases h with
    | none hgap =>
      obtain ⟨d, hd, hkeep⟩ := (Option.any_eq_true _ _).mp hhead
      rw [hgap d (List.mem_of_head? hd)] at hkeep
      cases hkeep
    | @next gap run rest others hgap hne hrun hend hrest =>
      cases gap with
      | nil =>
        exact ⟨(c :: run) :: others, .next hnogap (List.cons_ne_nil c run)
          (List.forall_mem_cons.mpr ⟨hc, hrun⟩) hend hrest⟩
      | cons d gap =>
        rw [List.cons_append, List.head?_cons, Option.any_some,
          hgap d List.mem_cons_self] at hhead
        cases hhead
  · exact ⟨[c] :: parts, .next hnogap (List.cons_ne_nil c [])
      (List.forall_mem_singleton.mpr hc) (eq_false_of_ne_true hhead) h⟩

/-- Every text has a list of runs, perhaps an empty one. -/
theorem exists_areRuns (keep : Char → Bool) (cs : List Char) : ∃ parts, AreRuns keep cs parts := by
  induction cs with
  | nil => exact ⟨[], .none (List.forall_mem_nil _)⟩
  | cons c cs ih =>
    obtain ⟨parts, hparts⟩ := ih
    cases hc : keep c with
    | false => exact ⟨parts, hparts.cons_gap hc⟩
    | true => exact hparts.exists_cons hc

/-! ## They are the pieces that are not empty -/

/-- The pieces of a text between characters of other classes, without those
that are empty. -/
def runs (keep : Char → Bool) (cs : List Char) : List (List Char) :=
  (pieces (!keep ·) cs).filter (· ≠ [])

/-- On either side of a character of another class, runs stand by
themselves. -/
theorem runs_append_cons (cs : List Char) {c : Char} (hc : keep c = false) (rest : List Char) :
    runs keep (cs ++ c :: rest) = runs keep cs ++ runs keep rest := by
  have hcut : (!keep c) = true := by rw [hc, Bool.not_false]
  unfold runs
  rw [pieces_append_cons cs hcut, List.filter_append]

theorem runs_gap_append {gap : List Char} (hgap : ∀ c ∈ gap, keep c = false)
    (rest : List Char) : runs keep (gap ++ rest) = runs keep rest := by
  induction gap with
  | nil => rfl
  | cons c gap ih =>
    obtain ⟨hc, hgap⟩ := List.forall_mem_cons.mp hgap
    exact (runs_append_cons [] hc (gap ++ rest)).trans (ih hgap)

/-- Characters of the class that stand alone are one run. -/
theorem runs_of_forall {run : List Char} (hne : run ≠ []) (hrun : ∀ c ∈ run, keep c = true) :
    runs keep run = [run] := by
  unfold runs
  rw [pieces_of_forall fun c hc => by rw [hrun c hc, Bool.not_true]]
  exact List.filter_eq_self.mpr (List.forall_mem_singleton.mpr (decide_eq_true hne))

theorem AreRuns.eq_runs {cs : List Char} {parts : List (List Char)}
    (h : AreRuns keep cs parts) : parts = runs keep cs := by
  induction h with
  | @none gap hgap =>
    rw [← List.append_nil gap, runs_gap_append hgap]
    rfl
  | @next gap run rest others hgap hne hrun hend hrest ih =>
    rw [runs_gap_append hgap, ih]
    cases rest with
    | nil =>
      rw [List.append_nil, runs_of_forall hne hrun]
      rfl
    | cons d rest =>
      have hd : keep d = false := hend
      rw [runs_append_cons run hd, runs_of_forall hne hrun]
      exact congrArg (run :: ·) (runs_append_cons [] hd rest)

/-- **A text has one list of longest runs.** -/
theorem areRuns_iff {cs : List Char} {parts : List (List Char)} :
    AreRuns keep cs parts ↔ parts = runs keep cs := by
  constructor
  · exact AreRuns.eq_runs
  · rintro rfl
    obtain ⟨parts, hparts⟩ := exists_areRuns keep cs
    rwa [← hparts.eq_runs]

end Playscript.Text
