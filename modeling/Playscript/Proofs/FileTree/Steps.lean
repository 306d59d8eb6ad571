import Mathlib.Order.Defs.Unbundled
import Playscript.Disk
import Playscript.Proofs.FileTree.WellFormed

/-!
# Operations, change by change

Whatever is done with a tree is made of a few kinds of changes, each of which
may be refused. So a relation between a tree and what becomes of it that is
reflexive and transitive holds for an operation if it holds for its changes
(`FileTree.Respects`). That a tree which can be on a disk becomes one is such a
relation (`FileTree.KeepsForm`). So is that all but certain places are spared
(`FileTree.SparesFrom`), once it is known from which directory paths lead:
which places those are depends on it, and no operation changes it.
-/

namespace Playscript

namespace FileTree

variable {R : FileTree → FileTree → Prop}

/-- **What an operation makes of a tree is related to what was there.** -/
def Respects {α : Type} (R : FileTree → FileTree → Prop) (op : StateM FileTree α) : Prop :=
  ∀ tree, R tree (op tree).2

namespace Respects

variable {α β : Type} [IsPreorder FileTree R]

theorem pure (value : α) : Respects R (pure value : StateM FileTree α) :=
  fun _ => refl_of R _

theorem bind {op : StateM FileTree α} {next : α → StateM FileTree β} (h : Respects R op)
    (hnext : ∀ value, Respects R (next value)) : Respects R (op >>= next) :=
  fun tree => trans_of R (h tree) (hnext _ _)

omit [IsPreorder FileTree R] in
theorem of_run {op : StateM FileTree α} {tree after : FileTree} {value : α} (h : Respects R op)
    (hop : op tree = (value, after)) : R tree after := by
  have hrelated := h tree
  rwa [hop] at hrelated

/-- Looking changes nothing. -/
theorem isThere (path : Path) : Respects R (Disk.isThere path : StateM FileTree Bool) :=
  fun _ => refl_of R _

theorem isDirectory (path : Path) : Respects R (Disk.isDirectory path : StateM FileTree Bool) :=
  fun _ => refl_of R _

/-- What changes a tree, unless it is refused. -/
theorem change {op : FileTree → Except DiskError FileTree}
    (h : ∀ tree after, op tree = .ok after → R tree after) : Respects R (change op) := by
  intro tree
  rw [FileTree.change]
  split
  · next hop => exact h _ _ hop
  · exact refl_of R tree

end Respects

/-- **Directories may be made.** -/
def AllowsDirectories (R : FileTree → FileTree → Prop) : Prop :=
  ∀ tree path after, tree.makeDirectory path = .ok after → R tree after

/-- **Some directories may be made.** -/
def AllowsMaking (R : FileTree → FileTree → Prop) (paths : List Path) : Prop :=
  ∀ path ∈ paths, ∀ tree after, tree.makeDirectory path = .ok after → R tree after

theorem AllowsDirectories.making (h : AllowsDirectories R) (paths : List Path) :
    AllowsMaking R paths :=
  fun path _ tree after => h tree path after

variable [IsPreorder FileTree R]

theorem respects_makeFirst {paths : List Path} (h : AllowsMaking R paths) :
    Respects R (Disk.makeFirst paths : StateM FileTree (Except DiskError Unit)) := by
  induction paths with
  | nil => exact .pure _
  | cons path above ih =>
    obtain ⟨hpath, habove⟩ := List.forall_mem_cons.mp h
    have hmake : Respects R
        (Disk.makeDirectory path : StateM FileTree (Except DiskError Unit)) := .change hpath
    have hunless : Respects R
        (Disk.makeUnlessThere path : StateM FileTree (Except DiskError Unit)) := by
      refine .bind hmake fun made => ?_
      cases made with
      | ok _ => exact .pure _
      | error error => exact .bind (.isDirectory path) fun _ => .pure _
    rw [Disk.makeFirst]
    split
    · exact .pure _
    refine .bind hmake fun made => ?_
    split
    · exact .pure _
    · refine .bind (ih habove) fun made => ?_
      cases made with
      | ok _ => exact hunless
      | error error => exact .pure _
    · exact .bind (.isDirectory path) fun _ => .pure _

/-- **A tree that can be on a disk becomes one.** -/
def KeepsForm (before after : FileTree) : Prop :=
  before.WellFormed → after.WellFormed

instance : IsPreorder FileTree KeepsForm where
  refl _ h := h
  trans _ _ _ h h' hform := h' (h hform)

theorem allowsDirectories_keepsForm : AllowsDirectories KeepsForm :=
  fun _ _ _ hmake h => h.of_makeDirectory hmake

/-- **All but certain places are spared**, if paths lead from the given
directory. -/
def SparesFrom (workDir : Location) (places : Location → Prop) (before after : FileTree) : Prop :=
  before.workDir = workDir → Spares places before after

/-- **An operation that does so**, whatever the tree is. -/
def Confined {α : Type} (workDir : Location) (places : Location → Prop)
    (op : StateM FileTree α) : Prop :=
  ∀ tree : FileTree, tree.workDir = workDir → Spares places tree (op tree).2

variable {α : Type} {workDir : Location} {places : Location → Prop}
  {op : StateM FileTree α}

instance : IsPreorder FileTree (SparesFrom workDir places) where
  refl tree _ := .refl places tree
  trans _ _ _ h h' hdir := (h hdir).trans (h' ((h hdir).workDir.trans hdir))

theorem confined_iff : Confined workDir places op ↔ Respects (SparesFrom workDir places) op :=
  Iff.rfl

theorem Confined.spares {tree after : FileTree} {value : α}
    (h : Confined tree.workDir places op) (hop : op tree = (value, after)) :
    Spares places tree after :=
  (confined_iff.mp h).of_run hop rfl

theorem confined_writeText (path : Path) (text : String) :
    Confined workDir (· = aim workDir path)
      (Disk.writeText path text : StateM FileTree (Except DiskError Unit)) := by
  refine confined_iff.mpr (.change ?_)
  rintro tree after h rfl
  exact spares_of_writeBytes h

theorem confined_removeFile (path : Path) :
    Confined workDir (· = aim workDir path)
      (Disk.removeFile path : StateM FileTree (Except DiskError Unit)) := by
  refine confined_iff.mpr (.change ?_)
  rintro tree after h rfl
  exact spares_of_removeFile h

theorem confined_moveFile (source target : Path) :
    Confined workDir
      (fun location => location = aim workDir source ∨ location = aim workDir target)
      (Disk.moveFile source target : StateM FileTree (Except DiskError Unit)) := by
  refine confined_iff.mpr (.change ?_)
  rintro tree after h rfl
  exact spares_of_moveFile h

theorem allowsDirectories_sparesFrom : AllowsDirectories (SparesFrom workDir places) :=
  fun _ _ _ hmake _ => spares_of_makeDirectory hmake

end FileTree

end Playscript
