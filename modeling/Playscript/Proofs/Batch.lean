import Playscript.Command.Run

/-!
# The account of a batch

A batch counts what becomes of its inputs, tells of each and says at its end
whether it succeeded. Three functions do that, and each has a rule of its own
about failures: the tally counts them like everything else, a quiet console
tells of nothing else, and the answer depends on whether there was one. This
module says that the three are about the same thing, the fates that the
inputs had.

Of the process nothing is assumed. It may keep a state of any type, fail or
succeed as it likes and answer differently when it is asked again. So the
fates are those of one run of it over the inputs, each processed in the state
that the one before left behind (`Processed`), and not those of a function of
the input. What it cannot do is tell: the console is beside its state, where
only the batch reaches it.
-/

namespace Playscript

/-- **What becomes of an input.** -/
abbrev Fate := Except Fault Report

namespace Fate

/-- The mark a fate is counted under. -/
def mark : Fate → Mark
  | .ok ⟨_, _, .written _⟩ => .generated
  | .ok ⟨_, _, .skipped _⟩ => .skipped
  | .ok ⟨_, _, .preview _⟩ => .preview
  | .error _ => .failed

/-- What is told of the fate of an input. -/
def notice (input : Path) : Fate → Notice
  | .ok report => .report report
  | .error fault => .failure input fault

/-- The fate of an input in words. -/
def words (input : Path) : Fate → String
  | .ok report => report.line.2
  | .error fault => input.text ++ ": " ++ fault.message

/-- **The line for an input**: the mark its fate is counted under, and behind a
blank the fate in words. -/
def line (style : Style) (input : Path) (fate : Fate) : String :=
  fate.mark.shown style ++ " " ++ fate.words input

end Fate

/-! ## Processing -/

section

variable {σ : Type}

/-- **Inputs are processed once each and in order**, every one in the state
that was left by the one before it, and whatever the fate of that was. -/
inductive Processed (process : Path → StateM σ Fate) : List Path → List Fate → σ → σ → Prop
  | nil (state : σ) : Processed process [] [] state state
  | cons {input : Path} {inputs : List Path} {fate : Fate} {fates : List Fate}
      {before between after : σ} (first : (process input).run before = (fate, between))
      (rest : Processed process inputs fates between after) :
      Processed process (input :: inputs) (fate :: fates) before after

/-- Inputs can always be processed to the last one. -/
theorem exists_processed (process : Path → StateM σ Fate) (inputs : List Path) (before : σ) :
    ∃ fates after, Processed process inputs fates before after := by
  induction inputs generalizing before with
  | nil => exact ⟨[], before, .nil before⟩
  | cons input inputs ih =>
    obtain ⟨fates, after, rest⟩ := ih ((process input).run before).2
    exact ⟨_ :: fates, after, .cons rfl rest⟩

/-- Every input has one fate. -/
theorem Processed.length_eq {process : Path → StateM σ Fate} {inputs : List Path}
    {fates : List Fate} {before after : σ} (h : Processed process inputs fates before after) :
    fates.length = inputs.length := by
  induction h with
  | nil => rfl
  | cons _ _ ih => exact congrArg Nat.succ ih

end

/-! ## Counting -/

namespace Tally

/-- One more input with a fate. -/
def count (tally : Tally) : Fate → Tally
  | .ok report => tally.record report.outcome
  | .error _ => tally.recordFailure

/-- **The tally of marks**, each counted by itself. -/
def ofMarks (marks : List Mark) : Tally :=
  ⟨marks.count .generated, marks.count .skipped, marks.count .preview, marks.count .failed⟩

/-- **One input more is one mark more**, that of its fate. -/
theorem count_ofMarks (marks : List Mark) (fate : Fate) :
    (ofMarks marks).count fate = ofMarks (marks ++ [fate.mark]) := by
  unfold ofMarks
  simp only [List.count_append]
  rcases fate with fault | ⟨input, base, paths | existing | paths⟩ <;> rfl

/-- A tally counts every mark of a fate, so its total is their number. -/
theorem total_ofMarks (fates : List Fate) :
    (ofMarks (fates.map Fate.mark)).total = fates.length := by
  induction fates with
  | nil => rfl
  | cons fate fates ih =>
    rw [List.length_cons, ← ih]
    unfold ofMarks total
    simp only [List.map_cons, List.count_cons]
    rcases fate with fault | ⟨input, base, paths | existing | paths⟩ <;>
      simp only [Fate.mark, beq_iff_eq, reduceCtorEq, if_true, if_false] <;> omega

/-- Some input failed when the tally says so. -/
theorem failed_ofMarks_pos {marks : List Mark} : (ofMarks marks).failed > 0 ↔ .failed ∈ marks :=
  List.count_pos_iff

/-- Whether a batch succeeds depends on whether an input failed. -/
theorem check_ofMarks (fates : List Fate) :
    (ofMarks (fates.map Fate.mark)).check
      = if .failed ∈ fates.map Fate.mark then
          .error (.inputsFailed ((fates.map Fate.mark).count .failed) fates.length)
        else .ok () := by
  unfold check
  simp only [failed_ofMarks_pos, total_ofMarks]
  rfl

end Tally

/-! ## Telling -/

/-- A console beside a state of another kind: what is told is kept in
order. -/
instance {σ : Type} : Console (StateT (List Notice) (StateM σ)) where
  tell notice := modify (· ++ [notice])

/-- **A batch counts the fates and tells of them**, input by input, on top of
what was counted and told before. -/
theorem run_processAll {σ : Type} {process : Path → StateM σ Fate} {inputs : List Path}
    {fates : List Fate} {before after : σ} (h : Processed process inputs fates before after)
    (marks : List Mark) (told : List Notice) :
    ((processAll (fun input => StateT.lift (process input)) (.ofMarks marks) inputs
        : StateT (List Notice) (StateM σ) Tally).run told).run before
      = ((.ofMarks (marks ++ fates.map Fate.mark),
          told ++ (inputs.zip fates).map fun (input, fate) => fate.notice input), after) := by
  induction h generalizing marks told with
  | nil =>
    rw [List.zip_nil_left, List.map_nil, List.map_nil, List.append_nil, List.append_nil]
    rfl
  | @cons input inputs fate fates before between after first rest ih =>
    have hstep : ((processAll (fun input => StateT.lift (process input)) (.ofMarks marks)
          (input :: inputs) : StateT (List Notice) (StateM σ) Tally).run told).run before
        = ((processAll (fun input => StateT.lift (process input))
            ((Tally.ofMarks marks).count fate) inputs
          : StateT (List Notice) (StateM σ) Tally).run (told ++ [fate.notice input])).run
            between := by
      rw [processAll, StateT.run_bind, StateT.run_lift, bind_assoc, StateT.run_bind, first]
      cases fate with
      | ok report => rfl
      | error fault => rfl
    rw [hstep, Tally.count_ofMarks, ih, List.append_assoc, List.append_assoc]
    rfl

/-- What a whole batch comes to, the notice of its end included. -/
theorem run_runBatch {σ : Type} {process : Path → StateM σ Fate} {inputs : List Path}
    {fates : List Fate} {before after : σ} (h : Processed process inputs fates before after) :
    ((runBatch (fun input => StateT.lift (process input)) inputs
        : StateT (List Notice) (StateM σ) Tally).run []).run before
      = ((.ofMarks (fates.map Fate.mark),
          ((inputs.zip fates).map fun (input, fate) => fate.notice input)
            ++ [.summary (.ofMarks (fates.map Fate.mark))]), after) := by
  rw [runBatch, StateT.run_bind, StateT.run_bind,
    show Tally.zero = Tally.ofMarks [] from rfl, run_processAll h]
  rfl

/-! ## Showing -/

/-- **The lines that are shown** of what was told. -/
def linesOf (quiet : Bool) (style : Style) (time : String) (told : List Notice) : List String :=
  (told.filter (·.isShown quiet)).map (·.line style time)

/-- The line of what is told of a fate has the mark that the fate is counted
under. -/
theorem line_notice (style : Style) (time : String) (input : Path) (fate : Fate) :
    (fate.notice input).line style time = fate.line style input := by
  rcases fate with fault | ⟨_, base, paths | existing | paths⟩ <;> rfl

/-- A quiet console shows failures of all that is told of inputs, and any
other console shows all. -/
theorem isShown_notice (quiet : Bool) (input : Path) (fate : Fate) :
    (fate.notice input).isShown quiet = (!quiet || fate.mark = .failed) := by
  rcases fate with fault | ⟨_, base, paths | existing | paths⟩ <;> cases quiet <;> rfl

/-- The lines shown of fates and of the end. -/
theorem linesOf_fates (quiet : Bool) (style : Style) (time : String)
    (handled : List (Path × Fate)) (tally : Tally) :
    linesOf quiet style time
        ((handled.map fun (input, fate) => fate.notice input) ++ [.summary tally])
      = (handled.filter fun (_, fate) => !quiet || fate.mark = .failed).map
          (fun (input, fate) => fate.line style input)
        ++ if !quiet || tally.failed > 0 then [style.lastLine tally time] else [] := by
  unfold linesOf
  rw [List.filter_append, List.map_append]
  congr 1
  · rw [List.filter_map, List.map_map]
    simp only [Function.comp_def, isShown_notice, line_notice]
  · rw [List.filter_cons, apply_ite (List.map _)]
    rfl

/-- **The account of a batch.** The inputs are processed once each, in order
and whatever their fates; the tally holds the numbers of the fates of each
kind, and its total is the number of inputs; the batch succeeds unless an
input failed, and says how many did; the console is told of the fate of each
input and then of the end; and it shows the line of each input and then the
last line, or when it is quiet the lines of those that failed, and the last
line only if there are any. -/
theorem runBatch_account {σ : Type} (process : Path → StateM σ Fate) (inputs : List Path)
    (before : σ) :
    ∃ fates after tally told, Processed process inputs fates before after
      ∧ ((runBatch (fun input => StateT.lift (process input)) inputs
          : StateT (List Notice) (StateM σ) Tally).run []).run before = ((tally, told), after)
      ∧ tally.generated = (fates.map Fate.mark).count .generated
      ∧ tally.skipped = (fates.map Fate.mark).count .skipped
      ∧ tally.previewed = (fates.map Fate.mark).count .preview
      ∧ tally.failed = (fates.map Fate.mark).count .failed
      ∧ tally.total = inputs.length
      ∧ tally.check = (if .failed ∈ fates.map Fate.mark then
          .error (.inputsFailed tally.failed inputs.length) else .ok ())
      ∧ told = (inputs.zip fates).map (fun (input, fate) => fate.notice input)
          ++ [.summary tally]
      ∧ ∀ style time,
        linesOf false style time told
          = (inputs.zip fates).map (fun (input, fate) => fate.line style input)
            ++ [style.lastLine tally time]
        ∧ linesOf true style time told
          = ((inputs.zip fates).filter (·.2.mark = .failed)).map
              (fun (input, fate) => fate.line style input)
            ++ if .failed ∈ fates.map Fate.mark then [style.lastLine tally time] else [] := by
  obtain ⟨fates, after, h⟩ := exists_processed process inputs before
  refine ⟨fates, after, _, _, h, run_runBatch h, rfl, rfl, rfl, rfl, ?_, ?_, rfl,
    fun style time => ⟨?_, ?_⟩⟩
  · rw [Tally.total_ofMarks, h.length_eq]
  · rw [Tally.check_ofMarks, h.length_eq]
    rfl
  · have hall : (inputs.zip fates).filter (fun (_, fate) => !false || fate.mark = .failed)
        = inputs.zip fates := List.filter_eq_self.mpr fun _ _ => rfl
    rw [linesOf_fates, hall]
    rfl
  · rw [linesOf_fates]
    simp only [Bool.not_true, Bool.false_or, decide_eq_true_eq, Tally.failed_ofMarks_pos]

end Playscript
