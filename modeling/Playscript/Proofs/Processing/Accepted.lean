import Playscript.Proofs.Processing.Stages

/-!
# Inputs that are not refused

An input is refused when there is nothing in its name before the suffix. That
is a matter of the name alone, so an input whose name is as it must be is never
refused, whatever is on the disk and whatever goes wrong with it
(`Stage.accepts_process`).

Only the preparation of drafts asks for the name. What is done after it fails
because of the disk if it fails at all, so nothing has to be known about it but
which faults it can answer with.
-/

namespace Playscript

/-- **An answer that is no refusal** of an input because of its name. -/
def IsAccepted {α : Type} (answer : Except Fault α) : Prop :=
  ∀ path suffix, answer ≠ .error (.unsupportedInput path suffix)

theorem isAccepted_ok {α : Type} (value : α) : IsAccepted (.ok value) := by
  simp [IsAccepted]

/-- A fault can be handed on with another type of answers. -/
theorem IsAccepted.error {α β : Type} {fault : Fault}
    (h : IsAccepted (.error fault : Except Fault α)) :
    IsAccepted (.error fault : Except Fault β) :=
  fun path suffix he => h path suffix (congrArg Except.error (Except.error.inj he))

namespace Session

variable {α β : Type}

/-- **An operation refuses no input** because of its name. -/
def Accepts (op : StateM Session (Except Fault α)) : Prop :=
  ∀ session, IsAccepted (op session).1

namespace Accepts

theorem pure {answer : Except Fault α} (h : IsAccepted answer) :
    Accepts (pure answer : StateM Session (Except Fault α)) :=
  fun _ => h

/-- What is done first does not matter if it is not what is answered. -/
theorem bind {op : StateM Session β} {next : β → StateM Session (Except Fault α)}
    (h : ∀ value, Accepts (next value)) : Accepts (op >>= next) :=
  fun _ => h _ _

end Accepts

theorem accepts_writeOutputs (input : Path) (base : String) (drafts : List Draft)
    (options : WriteOptions) : Accepts (writeOutputs input base drafts options) := by
  refine .bind fun written => ?_
  cases written <;> exact .pure (by simp [IsAccepted])

theorem accepts_finish (stage : Stage) (layout : Layout) (report : Report) :
    Accepts (stage.finish layout report) := by
  cases stage with
  | understanding classifier => exact .pure (isAccepted_ok _)
  | writing nouns =>
    rw [Stage.finish, withBase]
    split
    · refine .bind fun made => ?_
      cases made <;> exact .pure (by simp [IsAccepted])
    · exact .pure (isAccepted_ok _)

end Session

namespace Stage

open Session

variable {stage : Stage} {path : Path} {base : String}

theorem isAccepted_textOf (tree : FileTree) (path : Path) : IsAccepted (tree.textOf path) := by
  rw [FileTree.textOf]
  split
  · split <;> simp [IsAccepted]
  · simp [IsAccepted]

theorem isAccepted_parse (h : path.stem? Suffix.feature = some base) (text : String) :
    IsAccepted (Feature.parse path text) := by
  rw [Feature.parse, h]
  dsimp only
  split
  · simp [IsAccepted]
  · rw [Feature.ofDocument]
    split <;> simp [IsAccepted]

/-- **Nothing is refused while drafts are made** if the name of the input ends
as it must. -/
theorem isAccepted_made (h : path.stem? stage.suffix = some base) (layout : Layout)
    (text : String) : IsAccepted (stage.made layout path text) := by
  cases stage with
  | understanding classifier =>
    have hparse := isAccepted_parse h text
    rw [made]
    cases hfeature : Feature.parse path text with
    | error fault =>
      rw [hfeature] at hparse
      exact hparse.error
    | ok feature => exact isAccepted_ok _
  | writing nouns =>
    rw [made, show path.stem? Suffix.stepMap = some base from h]
    dsimp only
    split
    · simp [IsAccepted]
    · split <;> simp [IsAccepted]

theorem isAccepted_preparedIn (h : path.stem? stage.suffix = some base) (layout : Layout)
    (tree : FileTree) : IsAccepted (stage.preparedIn layout path tree) := by
  have hgiven : stage.refusal? path = none := by
    cases stage with
    | understanding classifier => rfl
    | writing nouns => rw [refusal?, show path.stem? Suffix.stepMap = some base from h]
  have htext := isAccepted_textOf tree path
  rw [preparedIn, hgiven]
  dsimp only
  cases hread : tree.textOf path with
  | error fault =>
    rw [hread] at htext
    exact htext.error
  | ok text => exact isAccepted_made h layout text

theorem accepts_complete (stage : Stage) (layout : Layout) (options : WriteOptions)
    (path : Path) {prepared : Except Fault (String × List Draft)} (h : IsAccepted prepared) :
    Accepts (stage.complete layout options path prepared) := by
  cases prepared with
  | error fault => exact .pure h.error
  | ok made =>
    intro session
    have hwrite := accepts_writeOutputs path made.1 made.2 options session
    rw [complete]
    cases hwritten : (writeOutputs path made.1 made.2 options
      : StateM Session (Except Fault Report)) session with
    | mk answer after =>
      rw [FileTree.run_bind hwritten]
      rw [hwritten] at hwrite
      cases answer with
      | error fault => exact hwrite
      | ok report => exact accepts_finish stage layout report after

/-- **An input whose name ends as it must is not refused**, whatever is on the
disk. -/
theorem accepts_process (h : path.stem? stage.suffix = some base) (layout : Layout)
    (options : WriteOptions) : Accepts (stage.process layout options path) := by
  intro session
  rw [process_eq, FileTree.run_bind (prepare_session layout path stage session)]
  exact accepts_complete stage layout options path (isAccepted_preparedIn h layout session.tree)
    session

end Stage

end Playscript
