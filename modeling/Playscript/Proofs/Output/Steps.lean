import Playscript.Output
import Playscript.Proofs.FileTree.Steps

/-!
# Writing, step by step

Whether it succeeds or fails half way, writing outputs is made of a few kinds
of steps: directories are made, hidden siblings are written, removed and moved
onto their targets, and at last the base class is written. So a relation
between a tree and what becomes of it that holds for each of these steps, and
is reflexive and transitive, holds for the whole (`Output.respects_writeAll`,
`Output.respects_ensureBase`), whatever was refused on the way.
-/

namespace Playscript

namespace Output

open FileTree

/-- **Hidden siblings may be removed.** -/
def AllowsDiscarding (R : FileTree → FileTree → Prop) (targets : List Path) : Prop :=
  ∀ target ∈ targets, ∀ tree after,
    tree.removeFile (stagingOf target) = .ok after → R tree after

/-- **A relation that holds for each step of moving into place.** -/
structure AllowsPlacing (R : FileTree → FileTree → Prop) (targets : List Path) : Prop where
  /-- A hidden sibling is removed. -/
  discard : AllowsDiscarding R targets
  /-- A hidden sibling is moved into place. -/
  place : ∀ target ∈ targets, ∀ tree after,
    tree.moveFile (stagingOf target) target = .ok after → R tree after

/-- **A relation that holds for each step of writing to targets.** -/
structure Allows (R : FileTree → FileTree → Prop) (targets : List Path) : Prop
    extends AllowsPlacing R targets where
  /-- A directory that leads to a target is made. -/
  directories : ∀ target ∈ targets, ∀ parent, target.parent? = some parent →
    AllowsMaking R parent.ancestors
  /-- A hidden sibling is written. -/
  stage : ∀ target ∈ targets, ∀ tree bytes after,
    tree.writeBytes (stagingOf target) bytes = .ok after → R tree after

/-- **A relation that holds for each step of staging.** -/
structure AllowsStaging (R : FileTree → FileTree → Prop) (targets : List Path) : Prop where
  /-- A hidden sibling is removed. -/
  discard : AllowsDiscarding R targets
  /-- A directory that leads to a target is made. -/
  directories : ∀ target ∈ targets, ∀ parent, target.parent? = some parent →
    AllowsMaking R parent.ancestors
  /-- A hidden sibling is written. -/
  stage : ∀ target ∈ targets, ∀ tree bytes after,
    tree.writeBytes (stagingOf target) bytes = .ok after → R tree after

variable {R : FileTree → FileTree → Prop}

theorem Allows.staging {targets : List Path} (h : Allows R targets) : AllowsStaging R targets :=
  ⟨h.discard, h.directories, h.stage⟩

theorem AllowsPlacing.of_subset {targets others : List Path} (h : AllowsPlacing R others)
    (hsub : targets ⊆ others) : AllowsPlacing R targets :=
  ⟨fun target hm => h.discard target (hsub hm), fun target hm => h.place target (hsub hm)⟩

theorem allows_keepsForm (targets : List Path) : Allows KeepsForm targets where
  discard _ _ _ _ hremove h := h.of_removeFile hremove
  place _ _ _ _ hmove h := h.of_moveFile hmove
  directories _ _ _ _ := allowsDirectories_keepsForm.making _
  stage _ _ _ _ _ hwrite h := h.of_writeBytes hwrite

variable [IsPreorder FileTree R]

theorem respects_makeParent {target : Path}
    (h : ∀ parent, target.parent? = some parent → AllowsMaking R parent.ancestors) :
    Respects R (makeParent target : StateM FileTree (Except DiskError Unit)) := by
  rw [makeParent]
  split
  · next parent hparent =>
    split
    · exact .pure _
    · exact respects_makeFirst (h parent hparent)
  · exact .pure _

theorem respects_discard {targets : List Path} (h : AllowsDiscarding R targets) :
    Respects R (discard targets : StateM FileTree Unit) := by
  induction targets with
  | nil => exact .pure _
  | cons target targets ih =>
    obtain ⟨htarget, hothers⟩ := List.forall_mem_cons.mp h
    exact .bind (.change htarget) fun _ => ih hothers

theorem respects_stage {draft : Draft}
    (hmaking : ∀ parent, draft.1.parent? = some parent → AllowsMaking R parent.ancestors)
    (hwrite : ∀ tree bytes after,
      tree.writeBytes (stagingOf draft.1) bytes = .ok after → R tree after) :
    Respects R (stage draft : StateM FileTree (Except DiskError Unit)) := by
  refine .bind (respects_makeParent hmaking) fun made => ?_
  cases made with
  | ok _ => exact .change fun tree after => hwrite tree _ after
  | error error => exact .pure _

theorem respects_stageAll {staged : List Path} {drafts : List Draft}
    (h : AllowsStaging R (staged ++ drafts.map (·.1))) :
    Respects R (stageAll staged drafts : StateM FileTree (Except DiskError Unit)) := by
  induction drafts generalizing staged with
  | nil => exact .pure _
  | cons draft drafts ih =>
    have hmem : draft.1 ∈ staged ++ (draft :: drafts).map (·.1) :=
      List.mem_append_right _ List.mem_cons_self
    refine .bind (respects_stage (h.directories draft.1 hmem) (h.stage draft.1 hmem))
      fun made => ?_
    cases made with
    | ok _ =>
      refine ih ?_
      rwa [List.append_assoc]
    | error error =>
      exact .bind (respects_discard fun target hm => h.discard target (List.mem_append_left _ hm))
        fun _ => .pure _

theorem respects_placeAll {targets : List Path} (h : AllowsPlacing R targets) :
    Respects R (placeAll targets : StateM FileTree (Except DiskError Unit)) := by
  induction targets with
  | nil => exact .pure _
  | cons target targets ih =>
    refine .bind (.change fun tree after => h.place target List.mem_cons_self tree after)
      fun moved => ?_
    cases moved with
    | ok _ => exact ih (h.of_subset (List.subset_cons_self _ _))
    | error error => exact .bind (respects_discard h.discard) fun _ => .pure _

theorem respects_writeOrPreview {drafts : List Draft} (h : Allows R (drafts.map (·.1)))
    (dryRun : Bool) :
    Respects R
      (writeOrPreview drafts dryRun : StateM FileTree (Except DiskError Outcome)) := by
  have hreplace : Respects R (replaceAll drafts : StateM FileTree (Except DiskError Unit)) := by
    refine .bind (respects_stageAll h.staging) fun staged => ?_
    cases staged with
    | ok _ => exact respects_placeAll h.toAllowsPlacing
    | error error => exact .pure _
  rw [writeOrPreview]
  split
  · exact .pure _
  · refine .bind hreplace fun replaced => ?_
    cases replaced <;> exact .pure _

/-- Looking for what exists changes nothing. -/
theorem respects_firstThere? (paths : List Path) :
    Respects R (firstThere? paths : StateM FileTree (Option Path)) := by
  induction paths with
  | nil => exact .pure _
  | cons path paths ih =>
    refine .bind (.isThere path) fun found => ?_
    cases found with
    | true => exact .pure _
    | false => exact ih

/-- **Writing drafts together** does what its steps do. -/
theorem respects_writeAll (drafts : List Draft) (h : Allows R (drafts.map (·.1)))
    (options : WriteOptions) :
    Respects R (writeAll drafts options : StateM FileTree (Except DiskError Outcome)) := by
  rw [writeAll]
  split
  · exact respects_writeOrPreview h _
  · refine .bind (respects_firstThere? _) fun found => ?_
    cases found with
    | some existing => exact .pure _
    | none => exact respects_writeOrPreview h _

/-- **Writing the base class** does what its steps do. -/
theorem respects_ensureBase (h : AllowsDirectories R) {dir : Path}
    (hbase : ∀ tree bytes after,
      tree.writeBytes (dir.join ⟨Page.baseFile⟩) bytes = .ok after → R tree after) :
    Respects R (ensureBase dir : StateM FileTree (Except DiskError Bool)) := by
  refine .bind (.isThere _) fun found => ?_
  cases found with
  | true => exact .pure _
  | false =>
    refine .bind (respects_makeFirst (h.making _)) fun made => ?_
    cases made with
    | error error => exact .pure _
    | ok _ =>
      refine .bind (.change fun tree after => hbase tree _ after) fun written => ?_
      cases written <;> exact .pure _

end Output

end Playscript
