import Mathlib.Order.Defs.Unbundled
import Playscript.Command.Run
import Playscript.Proofs.Session.Disk

/-!
# What a run can do to its tree

A run chooses inputs, reads them, writes outputs for one after the other and
tells of it. Only the writing touches the tree. So whatever relation between
a tree and what becomes of it is reflexive and transitive, and holds where
one input is processed, holds for the whole run, however many inputs there
are and whichever of them fail (`Invocation.relates_run`).

An operation that reads leaves the whole session as it is
(`Session.ReadsOnly`); what it finds at one time it would find at any time
until something is written.
-/

namespace Playscript

namespace Session

variable {α β : Type}

/-! ## Reading -/

/-- **The session stays as it is.** -/
def ReadsOnly (op : StateM Session α) : Prop :=
  ∀ session, (op session).2 = session

namespace ReadsOnly

theorem pure (value : α) : ReadsOnly (pure value : StateM Session α) :=
  fun _ => rfl

theorem bind {op : StateM Session α} {next : α → StateM Session β} (h : ReadsOnly op)
    (hnext : ∀ value, ReadsOnly (next value)) : ReadsOnly (op >>= next) :=
  fun session => (hnext _ _).trans (h session)

/-- What is done after reading is done in the same session. -/
theorem run_bind {op : StateM Session α} (h : ReadsOnly op) (next : α → StateM Session β)
    (session : Session) : (op >>= next) session = next (op session).1 session :=
  congrArg (next (op session).1) (h session)

end ReadsOnly

theorem readsOnly_isThere (path : Path) :
    ReadsOnly (Disk.isThere path : StateM Session Bool) :=
  fun _ => rfl

theorem readsOnly_isFile (path : Path) : ReadsOnly (Disk.isFile path : StateM Session Bool) :=
  fun _ => rfl

theorem readsOnly_isDirectory (path : Path) :
    ReadsOnly (Disk.isDirectory path : StateM Session Bool) :=
  fun _ => rfl

theorem readsOnly_names (path : Path) :
    ReadsOnly (Disk.names path : StateM Session (Except DiskError (List String))) :=
  fun _ => rfl

theorem readsOnly_readText (path : Path) :
    ReadsOnly (Disk.readText path : StateM Session (Except DiskError String)) :=
  fun _ => rfl

theorem readsOnly_inputText (path : Path) :
    ReadsOnly (inputText path : StateM Session (Except Fault String)) := by
  refine .bind (readsOnly_isFile path) fun found => ?_
  split
  · refine .bind (readsOnly_readText path) fun read => ?_
    cases read <;> exact .pure _
  · exact .pure _

theorem readsOnly_loadFeature (path : Path) :
    ReadsOnly (Feature.load path : StateM Session (Except Fault Feature)) := by
  refine .bind (readsOnly_inputText path) fun read => ?_
  cases read <;> exact .pure _

theorem readsOnly_loadStepMap (path : Path) :
    ReadsOnly (StepMap.load path : StateM Session (Except Fault StepMap)) := by
  refine .bind (readsOnly_inputText path) fun read => ?_
  cases read with
  | error fault => exact .pure _
  | ok text =>
    dsimp only
    split <;> exact .pure _

theorem readsOnly_loadTable {α : Type} (read : Json → Option α) (path : Path) :
    ReadsOnly (loadTable read path : StateM Session (Except Fault (List (String × α)))) := by
  refine .bind (readsOnly_isThere path) fun found => ?_
  split
  · refine .bind (readsOnly_readText path) fun text => ?_
    cases text with
    | error error => exact .pure _
    | ok text =>
      dsimp only
      split <;> exact .pure _
  · exact .pure _

theorem readsOnly_loadSelectors (layout : Layout) :
    ReadsOnly (Selectors.load layout : StateM Session (Except Fault Selectors)) := by
  refine .bind (readsOnly_loadTable _ _) fun aliases => ?_
  cases aliases with
  | error fault => exact .pure _
  | ok aliases =>
    refine .bind (readsOnly_loadTable _ _) fun fallbacks => ?_
    cases fallbacks <;> exact .pure _

theorem readsOnly_onlyFiles (paths : List Path) :
    ReadsOnly (Inputs.onlyFiles paths : StateM Session (List Path)) := by
  induction paths with
  | nil => exact .pure _
  | cons path paths ih => exact .bind ih fun _ => .bind (readsOnly_isFile path) fun _ => .pure _

theorem readsOnly_findAll (dir : Path) (suffix : String) :
    ReadsOnly (Inputs.findAll dir suffix : StateM Session (Except Fault (List Path))) := by
  refine .bind (readsOnly_isDirectory dir) fun found => ?_
  split
  · refine .bind (readsOnly_names dir) fun names => ?_
    cases names with
    | error error => exact .pure _
    | ok names => exact .bind (readsOnly_onlyFiles _) fun _ => .pure _
  · exact .pure _

/-- **Choosing inputs changes nothing.** -/
theorem readsOnly_select (dir : Path) (suffix : String) (all : Bool) (names : List String) :
    ReadsOnly (Inputs.select dir suffix all names
      : StateM Session (Except Fault (List Path))) := by
  rw [Inputs.select]
  split
  · refine .bind (readsOnly_findAll dir suffix) fun found => ?_
    cases found <;> exact .pure _
  · exact .pure _

theorem readsOnly_job (invocation : Invocation) :
    ReadsOnly (invocation.job : StateM Session (Except Fault (Job (StateM Session)))) := by
  rw [Invocation.job]
  split
  · refine .bind (readsOnly_loadSelectors _) fun selectors => ?_
    cases selectors <;> exact .pure _
  · exact .pure _

/-! ## Writing -/

/-- **What an operation makes of the tree is related to what was there.** -/
def Relates (R : FileTree → FileTree → Prop) (op : StateM Session α) : Prop :=
  ∀ session, R session.tree (op session).2.tree

variable {R : FileTree → FileTree → Prop}

theorem Relates.onTree {op : StateM FileTree α} (h : ∀ tree, R tree (op tree).2) :
    Relates R (onTree op) :=
  fun session => h session.tree

variable [IsPreorder FileTree R]

namespace Relates

theorem pure (value : α) : Relates R (pure value : StateM Session α) :=
  fun _ => refl_of R _

theorem bind {op : StateM Session α} {next : α → StateM Session β} (h : Relates R op)
    (hnext : ∀ value, Relates R (next value)) : Relates R (op >>= next) :=
  fun session => trans_of R (h session) (hnext _ _)

theorem of_readsOnly {op : StateM Session α} (h : ReadsOnly op) : Relates R op := by
  intro session
  rw [h session]
  exact refl_of R _

/-- Telling something leaves the tree as it is. -/
theorem tell (notice : Notice) : Relates R (Console.tell notice : StateM Session Unit) :=
  fun _ => refl_of R _

end Relates

/-- **A batch does what its inputs do.** Those that fail are no exception. -/
theorem relates_processAll {process : Path → StateM Session (Except Fault Report)}
    {inputs : List Path} (h : ∀ input ∈ inputs, Relates R (process input)) (tally : Tally) :
    Relates R (processAll process tally inputs) := by
  induction inputs generalizing tally with
  | nil => exact .pure tally
  | cons input inputs ih =>
    obtain ⟨hinput, hinputs⟩ := List.forall_mem_cons.mp h
    refine .bind hinput fun processed => ?_
    cases processed with
    | ok report => exact .bind (.tell _) fun _ => ih hinputs _
    | error fault => exact .bind (.tell _) fun _ => ih hinputs _

theorem relates_runOn {job : Job (StateM Session)} {options : WriteOptions} {inputs : List Path}
    (h : ∀ input ∈ inputs, Relates R (job.process options input)) :
    Relates R (job.runOn options inputs) := by
  have hbatch : Relates R (runBatch (job.process options) inputs) :=
    .bind (relates_processAll h _) fun _ => .bind (.tell _) fun _ => .pure _
  rw [Job.runOn]
  split
  · exact .bind (.tell _) fun _ => hbatch
  · exact hbatch

theorem relates_beginWatch (job : Job (StateM Session)) : Relates R job.beginWatch := by
  refine .bind (.of_readsOnly (readsOnly_isDirectory _)) fun found => ?_
  split
  · exact .bind (.tell _) fun _ => .pure _
  · exact .pure _

end Session

end Playscript
