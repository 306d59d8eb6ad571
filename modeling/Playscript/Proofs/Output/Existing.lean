import Mathlib.Order.Defs.Unbundled
import Playscript.Proofs.FileTree.Found
import Playscript.Proofs.Output.Failure

/-!
# What writing together does not replace

Without force, drafts are not written when something is found at one of the
targets. That does not yet keep what is at the place a target leads to:
nothing is found at a path that cannot be followed, and staging makes the
directories that are missing, so that it may be followed after all. A file
is safe where each target that leads to it finds it at the beginning
(`Output.Sheltered`). Since no directory is lost, it is then found from then
on, and so that condition holds again for whatever is written next; keeping a
sheltered file is therefore reflexive and transitive, and it is enough to
show it for each thing that is done (`Output.Keeps`).

The base class is written with no regard to force. It is looked for at a path
that can be followed, since a page object has been put beside it.
-/

namespace Playscript

namespace Output

open FileTree

variable {workDir : Location} {tree after : FileTree}

/-! ## What is written at all -/

/-- The places of targets and of their hidden siblings. -/
def IsWritten (workDir : Location) (targets : List Path) (location : Location) : Prop :=
  IsStaging workDir targets location ∨ ∃ target ∈ targets, location = aim workDir target

theorem allows_sparesFrom (targets : List Path) :
    Allows (SparesFrom workDir (IsWritten workDir targets)) targets where
  discard target hm tree after hremove hdir :=
    ((allowsStaging_sparesFrom targets).discard target hm tree after hremove hdir).mono
      fun _ => .inl
  place := by
    rintro target hm tree after hmove rfl
    exact (spares_of_moveFile hmove).mono fun location =>
      Or.imp (isStaging_of_mem hm location) fun he => ⟨target, hm, he⟩
  directories _ _ _ _ := allowsDirectories_sparesFrom.making _
  stage target hm tree bytes after hwrite hdir :=
    ((allowsStaging_sparesFrom targets).stage target hm tree bytes after hwrite hdir).mono
      fun _ => .inl

theorem confined_placeAll (targets : List Path) :
    Confined workDir (IsWritten workDir targets)
      (placeAll targets : StateM FileTree (Except DiskError Unit)) :=
  confined_iff.mpr (respects_placeAll (allows_sparesFrom targets).toAllowsPlacing)

/-- **Writing drafts spares all but their targets and the siblings of
these**, whatever becomes of it. -/
theorem confined_writeOrPreview (drafts : List Draft) (dryRun : Bool) :
    Confined workDir (IsWritten workDir (drafts.map (·.1)))
      (writeOrPreview drafts dryRun : StateM FileTree (Except DiskError Outcome)) :=
  confined_iff.mpr (respects_writeOrPreview (allows_sparesFrom _) dryRun)

/-! ## When it is written -/

/-- **What is looked for is the first that is found**, and looking changes
nothing. -/
theorem firstThere?_eq (paths : List Path) (tree : FileTree) :
    (firstThere? paths : StateM FileTree (Option Path)) tree
      = (paths.find? fun path => (tree.find? path).isSome, tree) := by
  induction paths with
  | nil => rfl
  | cons path paths ih =>
    have hlook : (Disk.isThere path : StateM FileTree Bool) tree
        = ((tree.find? path).isSome, tree) := rfl
    rw [firstThere?, run_bind hlook, List.find?_cons]
    cases (tree.find? path).isSome with
    | true => rfl
    | false => exact ih

/-- What is written is decided by what is found, on any disk where looking changes
nothing. -/
theorem writeAll_of_firstThere? {σ : Type} [Disk (StateM σ)] {state : σ} {drafts : List Draft}
    {found : Option Path}
    (h : (firstThere? (drafts.map (·.1)) : StateM σ (Option Path)) state = (found, state))
    (options : WriteOptions) :
    (writeAll drafts options : StateM σ (Except DiskError Outcome)) state
      = match if options.force then none else found with
        | some existing => (.ok (.skipped existing), state)
        | none =>
          (writeOrPreview drafts options.dryRun : StateM σ (Except DiskError Outcome)) state := by
  rw [writeAll]
  split
  · rfl
  · rw [run_bind h]
    cases found <;> rfl

theorem writeAll_eq (drafts : List Draft) (options : WriteOptions) (tree : FileTree) :
    (writeAll drafts options : StateM FileTree (Except DiskError Outcome)) tree
      = match if options.force then none
          else (drafts.map (·.1)).find? fun path => (tree.find? path).isSome with
        | some existing => (.ok (.skipped existing), tree)
        | none =>
          (writeOrPreview drafts options.dryRun : StateM FileTree (Except DiskError Outcome))
            tree :=
  writeAll_of_firstThere? (firstThere?_eq _ tree) options

/-- Without a dry run drafts are replaced, and it is said that they were written. -/
theorem writeOrPreview_false {σ : Type} [Disk (StateM σ)] {state after : σ}
    {result : Except DiskError Unit} (drafts : List Draft)
    (h : (replaceAll drafts : StateM σ (Except DiskError Unit)) state = (result, after)) :
    (writeOrPreview drafts false : StateM σ (Except DiskError Outcome)) state
      = (result.map fun _ => .written (drafts.map (·.1)), after) := by
  rw [writeOrPreview, if_neg Bool.false_ne_true, run_bind h]
  cases result <;> rfl

/-! ## Previews -/

/-- **A preview changes nothing**, and it does not say that anything was
written. -/
theorem exists_writeAll_dryRun (drafts : List Draft) {options : WriteOptions}
    (h : options.dryRun = true) (tree : FileTree) :
    ∃ outcome, (writeAll drafts options : StateM FileTree (Except DiskError Outcome)) tree
        = (.ok outcome, tree) ∧ ∀ paths, outcome ≠ .written paths := by
  rw [writeAll_eq]
  split
  · exact ⟨_, rfl, fun _ he => by cases he⟩
  · rw [writeOrPreview, if_pos h]
    exact ⟨_, rfl, fun _ he => by cases he⟩

/-! ## Sheltered files -/

/-- **A file that writing to targets does not harm.** It is the hidden
sibling of none of them, and those that lead to it find it and are not
written with force. -/
structure Sheltered (targets : List Path) (force : Bool) (location : Location)
    (tree : FileTree) : Prop where
  /-- There is a file. -/
  file : ∃ bytes, tree.at? location = some (.file bytes)
  /-- It is no hidden sibling. -/
  staging : ¬ IsStaging tree.workDir targets location
  /-- It is found. -/
  found : ∀ target ∈ targets, aim tree.workDir target = location →
    force = false ∧ (tree.find? target).isSome

/-- **A sheltered file is kept**: all that is not at its place may change. -/
def Keeps (targets : List Path) (force : Bool) (location : Location)
    (before after : FileTree) : Prop :=
  Sheltered targets force location before → Spares (· ≠ location) before after

variable {targets others : List Path} {force : Bool} {location : Location}

theorem Sheltered.of_subset (h : Sheltered others force location tree)
    (hsub : targets ⊆ others) : Sheltered targets force location tree :=
  ⟨h.file, fun hstaging => h.staging (.of_subset hsub location hstaging),
    fun target hm => h.found target (hsub hm)⟩

/-- **A file that is kept is sheltered again.** -/
theorem Sheltered.of_spares {before after : FileTree}
    (h : Sheltered targets force location before)
    (hspares : Spares (· ≠ location) before after) :
    Sheltered targets force location after := by
  obtain ⟨bytes, hfile⟩ := h.file
  refine ⟨⟨bytes, hspares.at?_eq_file (not_not_intro rfl) hfile⟩, ?_, fun target hm haim => ?_⟩
  · rw [hspares.workDir]
    exact h.staging
  · rw [hspares.workDir] at haim
    obtain ⟨hforce, hfound⟩ := h.found target hm haim
    obtain ⟨_, hlocate⟩ := exists_locate_of_find? hfound
    have hfind : before.find? target = some (.file bytes) := by
      rw [find?_of_locate hlocate, haim, hfile]
    refine ⟨hforce, ?_⟩
    rw [find?_of_spares hspares hfind (not_not_intro haim)]
    rfl

instance : IsPreorder FileTree (Keeps targets force location) where
  refl tree _ := .refl _ tree
  trans _ _ _ h h' hsheltered :=
    (h hsheltered).trans (h' (hsheltered.of_spares (h hsheltered)))

theorem Keeps.of_subset {before after : FileTree} (h : Keeps targets force location before after)
    (hsub : targets ⊆ others) : Keeps others force location before after :=
  fun hsheltered => h (hsheltered.of_subset hsub)

/-- A file at the place of no target is kept in writing. -/
theorem spares_writeOrPreview {drafts : List Draft}
    (hstaging : ¬ IsStaging tree.workDir (drafts.map (·.1)) location)
    (htargets : ∀ target ∈ drafts.map (·.1), aim tree.workDir target ≠ location)
    (dryRun : Bool) :
    Spares (· ≠ location) tree
      ((writeOrPreview drafts dryRun : StateM FileTree (Except DiskError Outcome)) tree).2 := by
  refine (confined_writeOrPreview drafts dryRun tree rfl).mono ?_
  rintro other (hother | ⟨target, hm, he⟩) rfl
  · exact hstaging hother
  · exact htargets target hm he.symm

/-- **Writing drafts together keeps what is sheltered from their targets.** -/
theorem keeps_writeAll (drafts : List Draft) (options : WriteOptions) (tree : FileTree) :
    Keeps (drafts.map (·.1)) options.force location tree
      ((writeAll drafts options : StateM FileTree (Except DiskError Outcome)) tree).2 := by
  intro hsheltered
  rw [writeAll_eq]
  split
  · exact .refl _ tree
  · next hnone =>
    refine spares_writeOrPreview hsheltered.staging (fun target hm haim => ?_) _
    -- a target that leads to the file would have been found
    obtain ⟨hforce, hfound⟩ := hsheltered.found target hm haim
    rw [hforce, if_neg Bool.false_ne_true] at hnone
    exact List.find?_eq_none.mp hnone target hm hfound

/-! ## The base class -/

theorem exists_locate_of_moveFile {source target : Path}
    (h : (Disk.moveFile source target : StateM FileTree (Except DiskError Unit)) tree
      = (.ok (), after)) : ∃ location, after.locate target = .ok location := by
  have hspares : Spares _ tree after := (confined_moveFile source target).spares h
  obtain ⟨_, -, hthen⟩ := of_eq_ok (of_change_ok h)
  obtain ⟨destination, htarget, -⟩ := of_eq_ok hthen
  exact ⟨destination, locate_of_spares hspares htarget⟩

/-- **A target with a file put to it can be followed.** -/
theorem exists_locate_of_placeAll {targets : List Path}
    (h : (placeAll targets : StateM FileTree (Except DiskError Unit)) tree = (.ok (), after)) :
    ∀ target ∈ targets, ∃ location, after.locate target = .ok location := by
  induction targets generalizing tree with
  | nil => exact List.forall_mem_nil _
  | cons target targets ih =>
    rcases placeAll_cases h with ⟨middle, hmoved, hthen⟩ | ⟨_, -, -, hfailed⟩
    · obtain ⟨location, hlocate⟩ := exists_locate_of_moveFile hmoved
      exact List.forall_mem_cons.mpr
        ⟨⟨location, locate_of_spares ((confined_placeAll targets).spares hthen) hlocate⟩, ih hthen⟩
    · cases hfailed

/-- **Where outputs were written, their paths can be followed.** -/
theorem exists_locate_of_writeAll {drafts : List Draft} {options : WriteOptions}
    {paths : List Path}
    (h : (writeAll drafts options : StateM FileTree (Except DiskError Outcome)) tree
      = (.ok (.written paths), after)) :
    ∀ target ∈ drafts.map (·.1), ∃ location, after.locate target = .ok location := by
  rw [writeAll_eq] at h
  split at h
  · cases h
  cases hdry : options.dryRun with
  | true =>
    rw [hdry] at h
    cases h
  | false =>
    rw [hdry] at h
    obtain ⟨middle, hplaced⟩ := exists_placeAll_of_writeOrPreview h
    exact exists_locate_of_placeAll hplaced

/-- **A base class that is there stays**, and so does what is elsewhere, if
the way to it can be followed. -/
theorem keeps_ensureBase {dir : Path} {place : Location}
    (h : tree.locate (dir.join ⟨Page.baseFile⟩) = .ok place) :
    Keeps targets force location tree
      ((ensureBase dir : StateM FileTree (Except DiskError Bool)) tree).2 := by
  intro hsheltered
  have hlook : (Disk.isThere (dir.join ⟨Page.baseFile⟩) : StateM FileTree Bool) tree
      = ((tree.find? (dir.join ⟨Page.baseFile⟩)).isSome, tree) := rfl
  cases hfind : tree.find? (dir.join ⟨Page.baseFile⟩) with
  | some node =>
    rw [ensureBase, run_bind hlook, hfind]
    exact .refl _ tree
  | none =>
    have hne : aim tree.workDir (dir.join ⟨Page.baseFile⟩) ≠ location := by
      obtain ⟨bytes, hfile⟩ := hsheltered.file
      rintro rfl
      rw [find?_of_locate h, hfile] at hfind
      cases hfind
    refine confined_iff.mpr (respects_ensureBase allowsDirectories_sparesFrom ?_) tree rfl
    intro before bytes after hwrite hdir
    exact (spares_of_writeBytes hwrite).mono fun _ he => he ▸ hdir ▸ hne

end Output

end Playscript
