import Playscript.Proofs.Naming.Basic
import Playscript.Proofs.Text.Runs

/-!
# Camel case, word by word

Camel case is written in one pass over a text. Two marks go along with it:
whether something has been written and whether a character was skipped since.
What it comes to can be said without either. Its words are the longest runs of
ASCII letters and digits, all of them in small letters, and every one but the
first begins with a capital (`joined`).

The two marks are all there is to show. In front of the first run nothing has
been written, so it makes no difference how many characters were skipped. From
there on each further run has a character in front of it that was skipped, for
otherwise the run before would not have ended (`camelFrom_of_areRuns`).
-/

namespace Playscript.Naming

/-- A word with a capital in front, small letters behind. -/
def capitalized (word : List Char) : List Char :=
  (word.map Char.toLower).modifyHead Char.toUpper

/-- **Words in camel case**: all in small letters, and each but the first with
a capital in front. -/
def joined : List (List Char) → List Char
  | [] => []
  | first :: others => first.map Char.toLower ++ others.flatMap capitalized

/-! ## Gaps and runs -/

/-- Of a gap there remains the mark that it was there. -/
theorem camelFrom_gap_append {gap : List Char} (hgap : ∀ c ∈ gap, c.isAlphanum = false)
    (started broken : Bool) (rest : List Char) :
    camelFrom started broken (gap ++ rest) = camelFrom started (broken || !gap.isEmpty) rest := by
  induction gap generalizing broken with
  | nil => rw [List.nil_append, List.isEmpty_nil, Bool.not_true, Bool.or_false]
  | cons c gap ih =>
    obtain ⟨hc, hgap⟩ := List.forall_mem_cons.mp hgap
    rw [List.cons_append, camelFrom, hc, if_neg Bool.false_ne_true, ih hgap, Bool.true_or,
      List.isEmpty_cons, Bool.not_false, Bool.or_true]

/-- What goes on with a run is written in small letters. -/
theorem camelFrom_run_append {run : List Char} (hrun : ∀ c ∈ run, c.isAlphanum = true)
    (rest : List Char) :
    camelFrom true false (run ++ rest) = run.map Char.toLower ++ camelFrom true false rest := by
  induction run with
  | nil => rfl
  | cons c run ih =>
    obtain ⟨hc, hrun⟩ := List.forall_mem_cons.mp hrun
    rw [List.cons_append, camelFrom, hc, if_pos rfl, Bool.and_false, if_neg Bool.false_ne_true,
      ih hrun]
    rfl

/-- **A run behind a gap** gets a capital, unless nothing has been written. -/
theorem camelFrom_word_append {run : List Char} (hne : run ≠ [])
    (hrun : ∀ c ∈ run, c.isAlphanum = true) (started broken : Bool) (rest : List Char) :
    camelFrom started broken (run ++ rest)
      = (if started && broken then capitalized run else run.map Char.toLower)
        ++ camelFrom true false rest := by
  cases run with
  | nil => exact absurd rfl hne
  | cons c run =>
    obtain ⟨hc, hrun⟩ := List.forall_mem_cons.mp hrun
    rw [List.cons_append, camelFrom, hc, if_pos rfl, camelFrom_run_append hrun]
    split
    · rw [capitalized, List.map_cons, List.modifyHead_cons, Text.toUpper_toLower, List.cons_append]
    · rw [List.map_cons, List.cons_append]

/-! ## The whole text -/

/-- **Once something has been written**, every run of the rest gets a capital,
provided that what was written last does not go on. -/
theorem camelFrom_of_areRuns {cs : List Char} {words : List (List Char)}
    (h : Text.AreRuns Char.isAlphanum cs words) {broken : Bool}
    (hbroken : broken = true ∨ cs.head?.any Char.isAlphanum = false) :
    camelFrom true broken cs = words.flatMap capitalized := by
  induction h generalizing broken with
  | none hgap => exact camelFrom_eq_nil_iff.mpr fun c hc => by simp [hgap c hc]
  | @next gap run rest others hgap hne hrun hend hrest ih =>
    -- a run that does not go on with what was written has a gap in front
    have hmark : (broken || !gap.isEmpty) = true := by
      cases gap with
      | cons d gap => simp
      | nil =>
        obtain ⟨c, run, rfl⟩ := List.exists_cons_of_ne_nil hne
        simpa [hrun c List.mem_cons_self] using hbroken
    rw [camelFrom_gap_append hgap, hmark, camelFrom_word_append hne hrun, ih (Or.inr hend)]
    rfl

/-- From the beginning of a text, its runs are written in camel case. -/
theorem camelFrom_eq_joined {cs : List Char} {words : List (List Char)}
    (h : Text.AreRuns Char.isAlphanum cs words) (broken : Bool) :
    camelFrom false broken cs = joined words := by
  cases h with
  | none hgap => exact camelFrom_eq_nil_iff.mpr fun c hc => by simp [hgap c hc]
  | next hgap hne hrun hend hrest =>
    rw [camelFrom_gap_append hgap, camelFrom_word_append hne hrun,
      camelFrom_of_areRuns hrest (Or.inr hend)]
    rfl

/-- Camel case does not begin with a capital. -/
theorem isUpper_head?_camelFrom (broken : Bool) (cs : List Char) :
    (camelFrom false broken cs).head?.any Char.isUpper = false := by
  induction cs generalizing broken with
  | nil => rfl
  | cons c cs ih =>
    rw [camelFrom]
    split
    · exact Text.isUpper_toLower c
    · exact ih true

/-- **Camel case is written word by word.** The longest runs of ASCII letters
and digits of a text are given by the text, and its camel case is these runs in
small letters, each but the first with a capital in front. So it consists of
ASCII letters and digits, does not begin with a capital, and is empty exactly
when the text has no ASCII letter or digit. -/
theorem camelCase_joins_runs (text : String) :
    (∃ words, (∀ parts, Text.AreRuns Char.isAlphanum text.toList parts ↔ parts = words)
        ∧ camelCase text = String.ofList (joined words))
      ∧ (∀ c ∈ (camelCase text).toList, c.isAlphanum = true)
      ∧ (camelCase text).toList.head?.any Char.isUpper = false
      ∧ (camelCase text = "" ↔ ¬∃ c ∈ text.toList, c.isAlphanum = true) := by
  refine ⟨⟨_, fun parts => Text.areRuns_iff, ?_⟩, fun c => isAlphanum_of_mem_camelCase, ?_, ?_⟩
  · exact congrArg String.ofList (camelFrom_eq_joined (Text.areRuns_iff.mpr rfl) false)
  · rw [camelCase, String.toList_ofList]
    exact isUpper_head?_camelFrom false text.toList
  · exact (not_iff_comm.mp camelCase_ne_empty_iff).symm

/-- Words may be numbers, and a letter that is not ASCII parts them. -/
example : camelCase "  Add -- 2 to CAFÉs!! " = "add2ToCafS" := by decide

end Playscript.Naming
