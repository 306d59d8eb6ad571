import Playscript.Proofs.FileTree.Directories
import Playscript.Proofs.Output.Existing
import Playscript.Proofs.Output.Steps

/-!
# Hidden siblings are cleared away

However replacing ends, the hidden siblings that it has made are gone
(`Output.tidied_of_replaceAll`). The argument follows the one sibling through
both loops. From when it is written it can be found, since no directory is ever
lost on the way to it, and whatever is found as a file can be removed. So one
that was written is gone in the end, moved or removed; and one that was not
written is as it was.

There is one thing at the place of a sibling that is not cleared away: a
directory that was made on the way to a target (`Output.IsMade`).
-/

namespace Playscript

namespace Output

open FileTree

variable {tree before middle after : FileTree} {target : Path} {targets : List Path}
  {location : Location}

/-! ## Directories that are made -/

/-- **The places on the way to targets**, as their paths lead there. -/
def IsOnWay (workDir : Location) (targets : List Path) (location : Location) : Prop :=
  ∃ target ∈ targets, ∃ parent, target.parent? = some parent
    ∧ ∃ path ∈ parent.ancestors, location = aim workDir path

/-- **No directories are made but those on the way to targets.** -/
structure OnlyLeads (targets : List Path) (before after : FileTree) : Prop where
  /-- Paths lead from the same directory. -/
  workDir : after.workDir = before.workDir
  /-- Other directories have been there. -/
  directories : ∀ location, after.at? location = some .directory →
    before.at? location = some .directory ∨ IsOnWay before.workDir targets location

instance : IsPreorder FileTree (OnlyLeads targets) where
  refl _ := ⟨rfl, fun _ => .inl⟩
  trans _ _ _ h h' := ⟨h'.workDir.trans h.workDir, fun location hdirectory =>
    (h'.directories location hdirectory).elim (h.directories location)
      fun hway => .inr (h.workDir ▸ hway)⟩

/-- A file that is put makes no directory. -/
theorem directory_of_put_file {other : Location} {bytes : ByteArray}
    (h : (tree.put location (.file bytes)).at? other = some .directory) :
    tree.at? other = some .directory := by
  by_cases he : other = location
  · cases other with
    | nil => rfl
    | cons name dir =>
      rw [← he, tree.at?_put_self (List.cons_ne_nil _ _)] at h
      cases h
  · rwa [tree.at?_put_of_ne he] at h

/-- Nor does taking something away. -/
theorem directory_of_erase {other : Location}
    (h : (tree.erase location).at? other = some .directory) : tree.at? other = some .directory :=
  not_imp_not.mp at?_erase_ne_directory h

/-- The paths that lead to a tidy one are tidy. -/
theorem isTidy_of_mem_ancestors {path other : Path} (h : path.IsTidy)
    (hm : other ∈ path.ancestors) : other.IsTidy := by
  rw [Path.ancestors] at hm
  generalize path.text.length = count at hm
  induction count generalizing path with
  | zero => rwa [List.mem_singleton.mp hm]
  | succ count ih =>
    rw [Path.ancestorsUpTo] at hm
    split at hm
    · rwa [List.mem_singleton.mp hm]
    · next parent hparent =>
      rcases List.mem_cons.mp hm with rfl | hm
      · exact h
      · exact ih (Path.isTidy_of_parent? hparent) hm

theorem allows_onlyLeads (targets : List Path) : Allows (OnlyLeads targets) targets where
  discard target _ tree after h := by
    obtain ⟨-, rfl⟩ := of_removeFile h
    exact ⟨rfl, fun _ hdirectory => .inl (directory_of_erase hdirectory)⟩
  place target _ tree after h := by
    obtain ⟨_, -, -, rfl⟩ := of_moveFile h
    exact ⟨rfl, fun _ hdirectory =>
      .inl (directory_of_erase (directory_of_put_file hdirectory))⟩
  directories target hm parent hparent path hpath tree after h := by
    obtain ⟨-, rfl⟩ := of_makeDirectory h
    have htidy := isTidy_of_mem_ancestors (Path.isTidy_of_parent? hparent) hpath
    rw [withoutSlashes_of_isTidy htidy]
    refine ⟨rfl, fun location hdirectory => ?_⟩
    by_cases he : location = aim tree.workDir path
    · exact .inr ⟨target, hm, parent, hparent, path, hpath, he⟩
    · rw [tree.at?_put_of_ne he] at hdirectory
      exact .inl hdirectory
  stage target _ tree bytes after h := by
    obtain ⟨-, rfl⟩ := of_writeBytes h
    exact ⟨rfl, fun _ hdirectory => .inl (directory_of_put_file hdirectory)⟩

/-- **A directory that was made on the way to targets.** -/
structure IsMade (targets : List Path) (before after : FileTree) (location : Location) :
    Prop where
  /-- Nothing was there. -/
  free : before.at? location = none
  /-- A directory is. -/
  directory : after.at? location = some .directory
  /-- It leads to a target. -/
  onWay : IsOnWay before.workDir targets location

theorem OnlyLeads.isMade (h : OnlyLeads targets before after)
    (hnone : before.at? location = none) (hdirectory : after.at? location = some .directory) :
    IsMade targets before after location := by
  refine ⟨hnone, hdirectory, (h.directories location hdirectory).resolve_left ?_⟩
  rw [hnone]
  exact nofun

/-! ## Clearing away -/

/-- **Away from targets things are only taken away.** -/
structure OnlyTakes (targets : List Path) (before after : FileTree) : Prop where
  /-- Paths lead from the same directory. -/
  workDir : after.workDir = before.workDir
  /-- What is at another place is what was there, unless it is gone. -/
  taken : ∀ location, (∀ target ∈ targets, location ≠ aim before.workDir target) →
    after.at? location = before.at? location ∨ after.at? location = none

instance : IsPreorder FileTree (OnlyTakes targets) where
  refl _ := ⟨rfl, fun _ _ => .inl rfl⟩
  trans _ _ _ h h' := by
    refine ⟨h'.workDir.trans h.workDir, fun location hout => ?_⟩
    rcases h'.taken location (h.workDir ▸ hout) with hsame | hnone
    · rw [hsame]
      exact h.taken location hout
    · exact .inr hnone

/-- What is gone stays gone. -/
theorem OnlyTakes.at?_eq_none (h : OnlyTakes targets before after)
    (hout : ∀ target ∈ targets, location ≠ aim before.workDir target)
    (hnone : before.at? location = none) : after.at? location = none :=
  (h.taken location hout).elim (·.trans hnone) id

/-- Where something is taken away, nothing is. -/
theorem at?_erase (h : tree.at? location ≠ some .directory) (other : Location) :
    (tree.erase location).at? other = tree.at? other ∨ (tree.erase location).at? other = none := by
  by_cases he : other = location
  · rw [he]
    exact .inr (tree.at?_erase_self (ne_nil_of_at? h))
  · exact .inl (tree.at?_erase_of_ne he)

theorem onlyTakes_of_removeFile {path : Path} (h : tree.removeFile path = .ok after) :
    OnlyTakes targets tree after := by
  obtain ⟨hkind, rfl⟩ := of_removeFile h
  exact ⟨rfl, fun location _ => at?_erase hkind location⟩

theorem allowsPlacing_onlyTakes (targets : List Path) :
    AllowsPlacing (OnlyTakes targets) targets where
  discard _ _ _ _ := onlyTakes_of_removeFile
  place target hm tree after h := by
    obtain ⟨bytes, hfile, -, rfl⟩ := of_moveFile h
    have hsource := ne_directory_of_file hfile
    refine ⟨rfl, fun location hout => ?_⟩
    rw [(tree.erase _).at?_put_of_ne (hout target hm)]
    exact at?_erase hsource location

/-- **A target with a hidden sibling that can be found.** -/
def HasStaged (tree : FileTree) (target : Path) : Prop :=
  ∃ bytes, tree.find? (stagingOf target) = some (.file bytes)

/-- **A target whose hidden sibling is gone once it was removed**: the way to it can
be followed, and it is no directory. -/
structure IsClearable (tree : FileTree) (target : Path) : Prop where
  /-- The way to it can be followed. -/
  locate : ∃ location, tree.locate (stagingOf target) = .ok location
  /-- It is no directory. -/
  kind : tree.at? (aim tree.workDir (stagingOf target)) ≠ some .directory

theorem HasStaged.isClearable (h : HasStaged tree target) : IsClearable tree target := by
  obtain ⟨bytes, hfind⟩ := h
  obtain ⟨location, hlocate⟩ := exists_locate_of_find? (by rw [hfind]; rfl)
  rw [find?_of_locate hlocate] at hfind
  exact ⟨⟨location, hlocate⟩, hfind ▸ nofun⟩

/-- It is there as long as its place is spared. -/
theorem HasStaged.of_spares {places : Location → Prop} (h : HasStaged before target)
    (hspares : Spares places before after)
    (hout : ¬ places (aim before.workDir (stagingOf target))) : HasStaged after target := by
  obtain ⟨bytes, hfind⟩ := h
  exact ⟨bytes, find?_of_spares hspares hfind hout⟩

/-- Taking something away is no hindrance to taking away more. -/
theorem IsClearable.of_takes {places : Location → Prop} (h : IsClearable before target)
    (hspares : Spares places before after) (htakes : OnlyTakes [] before after) :
    IsClearable after target := by
  obtain ⟨location, hlocate⟩ := h.locate
  refine ⟨⟨location, locate_of_spares hspares hlocate⟩, ?_⟩
  rw [htakes.workDir]
  rcases htakes.taken (aim before.workDir (stagingOf target)) (List.forall_mem_nil _) with
    hsame | hnone
  · rw [hsame]
    exact h.kind
  · rw [hnone]
    exact nofun

theorem onlyTakes_remove (target : Path) : Respects (OnlyTakes targets)
    (Disk.removeFile (stagingOf target) : StateM FileTree (Except DiskError Unit)) :=
  .change fun _ _ => onlyTakes_of_removeFile

theorem onlyTakes_discard (others : List Path) :
    Respects (OnlyTakes targets) (discard others : StateM FileTree Unit) :=
  respects_discard fun _ _ _ _ => onlyTakes_of_removeFile

/-- **What can be cleared away is gone once it was removed.** -/
theorem cleared_of_removeFile {result : Except DiskError Unit} (hclear : IsClearable tree target)
    (h : (Disk.removeFile (stagingOf target) : StateM FileTree (Except DiskError Unit)) tree
      = (result, after)) :
    after.at? (aim tree.workDir (stagingOf target)) = none := by
  have htakes : OnlyTakes [] tree after := (onlyTakes_remove target).of_run h
  obtain ⟨location, hlocate⟩ := hclear.locate
  obtain rfl := eq_aim_of_locate hlocate
  cases hthere : tree.at? (aim tree.workDir (stagingOf target)) with
  | none => exact htakes.at?_eq_none (List.forall_mem_nil _) hthere
  | some node =>
    cases node with
    | directory => exact absurd hthere hclear.kind
    | file bytes =>
      have hremove : tree.removeFile (stagingOf target)
          = .ok (tree.erase (aim tree.workDir (stagingOf target))) := by
        rw [removeFile, hlocate]
        dsimp only [bind, Except.bind]
        rw [hthere]
        rfl
      have hrun : change (·.removeFile (stagingOf target)) tree
          = (.ok (), tree.erase (aim tree.workDir (stagingOf target))) := by
        rw [change, hremove]
      obtain rfl := (Prod.mk.inj (h.symm.trans hrun)).2
      exact tree.at?_erase_self (ne_nil_of_at? hclear.kind)

theorem cleared_of_discard {value : Unit} (hclear : ∀ target ∈ targets, IsClearable tree target)
    (h : (discard targets : StateM FileTree Unit) tree = (value, after)) :
    ∀ target ∈ targets, after.at? (aim tree.workDir (stagingOf target)) = none := by
  induction targets generalizing tree with
  | nil => exact List.forall_mem_nil _
  | cons first targets ih =>
    obtain ⟨hfirst, hothers⟩ := List.forall_mem_cons.mp hclear
    rw [discard] at h
    obtain ⟨removed, middle, hremoved, hthen⟩ := of_bind h
    have hspares := (confined_removeFile _).spares hremoved
    have htakes : OnlyTakes [] tree middle := (onlyTakes_remove first).of_run hremoved
    have hrest : OnlyTakes [] middle after := (onlyTakes_discard targets).of_run hthen
    refine List.forall_mem_cons.mpr ⟨?_, fun target hm => ?_⟩
    · exact hrest.at?_eq_none (List.forall_mem_nil _) (cleared_of_removeFile hfirst hremoved)
    · rw [← hspares.workDir]
      exact ih (fun other ho => (hothers other ho).of_takes hspares htakes) hthen target hm

/-! ## Staging -/

/-- **What may be at the place of a hidden sibling in the end**: nothing, or what
was there, or a directory where nothing was. -/
def IsTidied (before after : FileTree) (location : Location) : Prop :=
  after.at? location = none ∨ after.at? location = before.at? location
    ∨ before.at? location = none ∧ after.at? location = some .directory

/-- What is spared and then tidied is tidied. -/
theorem IsTidied.of_spares {places : Location → Prop} (h : IsTidied middle after location)
    (hspares : Spares places before middle) (hout : ¬ places location) :
    IsTidied before after location := by
  rcases hspares.spared location hout with hsame | ⟨hnone, hdirectory⟩
  · rwa [IsTidied, ← hsame]
  · rcases h with hgone | hsame | ⟨hnone', -⟩
    · exact .inl hgone
    · exact .inr (.inr ⟨hnone, hsame.trans hdirectory⟩)
    · rw [hdirectory] at hnone'
      cases hnone'

/-- **A draft that is staged can be found.** -/
theorem hasStaged_of_stage {draft : Draft}
    (h : (stage draft : StateM FileTree (Except DiskError Unit)) tree = (.ok (), after)) :
    HasStaged after draft.1 := by
  have hholds := holds_of_stage h
  rw [stage] at h
  obtain ⟨made, middle, -, hthen⟩ := of_bind h
  cases made with
  | error error => cases hthen
  | ok _ =>
    have hspares := (confined_writeText _ _).spares hthen
    obtain ⟨location, hlocate, -⟩ := of_eq_ok (of_change_ok hthen)
    refine ⟨draft.2.toUTF8, ?_⟩
    rw [find?_of_locate (locate_of_spares hspares hlocate)]
    exact hholds

/-- **Where staging a draft fails**, nothing is there that was not, but for
directories. -/
theorem spares_of_stage {draft : Draft} {error : DiskError}
    (h : (stage draft : StateM FileTree (Except DiskError Unit)) tree = (.error error, after)) :
    Spares (fun _ => False) tree after := by
  rw [stage] at h
  obtain ⟨made, middle, hmade, hthen⟩ := of_bind h
  have hspares : Spares (fun _ => False) tree middle := (confined_makeParent draft.1).spares hmade
  cases made with
  | error error =>
    obtain rfl := (Prod.mk.inj hthen).2
    exact hspares
  | ok _ =>
    obtain rfl := of_change_error hthen
    exact hspares

/-- **Where staging fails, the siblings that were made are gone**, and the others
are as they were. -/
theorem tidied_of_stageAll {staged : List Path} {drafts : List Draft} {error : DiskError}
    (hapart : drafts.Pairwise fun a b => Apart tree.workDir a.1 b.1)
    (hothers : ∀ target ∈ staged, ∀ draft ∈ drafts,
      aim tree.workDir target ≠ aim tree.workDir draft.1)
    (hstaged : ∀ target ∈ staged, HasStaged tree target)
    (h : (stageAll staged drafts : StateM FileTree (Except DiskError Unit)) tree
      = (.error error, after)) :
    (∀ target ∈ staged, after.at? (aim tree.workDir (stagingOf target)) = none)
      ∧ ∀ draft ∈ drafts, IsTidied tree after (aim tree.workDir (stagingOf draft.1)) := by
  induction drafts generalizing staged tree with
  | nil => cases h
  | cons draft drafts ih =>
    obtain ⟨hdraft, hdrafts⟩ := List.pairwise_cons.mp hapart
    rcases stageAll_cases h with ⟨middle, hmade, hthen⟩ | ⟨_, middle, hmade, hdiscard, -⟩
    · have hspares := (confined_stage draft).spares hmade
      have hkept : ∀ target, aim tree.workDir target ≠ aim tree.workDir draft.1 →
          ¬ aim tree.workDir (stagingOf target) = aim tree.workDir (stagingOf draft.1) :=
        fun target hne => mt aim_eq_of_stagingOf hne
      have hothers' : ∀ target ∈ staged ++ [draft.1], ∀ other ∈ drafts,
          aim middle.workDir target ≠ aim middle.workDir other.1 := by
        rw [hspares.workDir]
        refine List.forall_mem_append.mpr ⟨fun target hm other ho =>
          hothers target hm other (List.mem_cons_of_mem _ ho), ?_⟩
        exact List.forall_mem_singleton.mpr fun other ho => (hdraft other ho).target
      have hstaged' : ∀ target ∈ staged ++ [draft.1], HasStaged middle target := by
        refine List.forall_mem_append.mpr ⟨fun target hm => ?_,
          List.forall_mem_singleton.mpr (hasStaged_of_stage hmade)⟩
        exact (hstaged target hm).of_spares hspares
          (hkept target (hothers target hm draft List.mem_cons_self))
      obtain ⟨hgone, htidied⟩ := ih (hspares.workDir ▸ hdrafts) hothers' hstaged' hthen
      rw [hspares.workDir] at hgone htidied
      obtain ⟨hbefore, hlast⟩ := List.forall_mem_append.mp hgone
      refine ⟨hbefore, List.forall_mem_cons.mpr
        ⟨.inl (hlast draft.1 List.mem_cons_self), fun other ho => ?_⟩⟩
      exact (htidied other ho).of_spares hspares (hkept other.1 (hdraft other ho).target.symm)
    · have hspares := spares_of_stage hmade
      have hclear : ∀ target ∈ staged, IsClearable middle target := fun target hm =>
        ((hstaged target hm).of_spares hspares not_false).isClearable
      have hgone := cleared_of_discard hclear hdiscard
      have htakes : OnlyTakes [] middle after := (onlyTakes_discard staged).of_run hdiscard
      rw [hspares.workDir] at hgone
      refine ⟨hgone, fun other _ => IsTidied.of_spares ?_ hspares not_false⟩
      exact (htakes.taken _ (List.forall_mem_nil _)).elim (fun hsame => .inr (.inl hsame)) .inl

/-- **Drafts that are staged can all be found.** -/
theorem hasStaged_of_stageAll {staged : List Path} {drafts : List Draft}
    (hapart : drafts.Pairwise fun a b => Apart tree.workDir a.1 b.1)
    (h : (stageAll staged drafts : StateM FileTree (Except DiskError Unit)) tree
      = (.ok (), after)) : ∀ draft ∈ drafts, HasStaged after draft.1 := by
  induction drafts generalizing staged tree with
  | nil => exact List.forall_mem_nil _
  | cons draft drafts ih =>
    obtain ⟨hdraft, hdrafts⟩ := List.pairwise_cons.mp hapart
    rcases stageAll_cases h with ⟨middle, hmade, hthen⟩ | ⟨_, _, -, -, hfailed⟩
    · have hspares := (confined_stage draft).spares hmade
      obtain ⟨hrest, -⟩ := of_stageAll (hspares.workDir ▸ hdrafts) hthen
      refine List.forall_mem_cons.mpr ⟨(hasStaged_of_stage hmade).of_spares hrest ?_,
        ih (hspares.workDir ▸ hdrafts) hthen⟩
      rw [hspares.workDir]
      exact not_isStaging_stagingOf fun other ho => (hdraft other ho).target
    · cases hfailed

/-! ## Moving into place -/

theorem cleared_of_moveFile
    (h : (Disk.moveFile (stagingOf target) target : StateM FileTree (Except DiskError Unit)) tree
      = (.ok (), after)) : after.at? (aim tree.workDir (stagingOf target)) = none := by
  obtain ⟨bytes, hfile, -, rfl⟩ := of_moveFile (of_change_ok h)
  have hsource := ne_directory_of_file hfile
  rw [(tree.erase _).at?_put_of_ne (aim_stagingOf_ne tree.workDir target)]
  exact tree.at?_erase_self (ne_nil_of_at? hsource)

/-- **Moving into place clears all siblings away**, whether it comes to its end or
not. -/
theorem cleared_of_placeAll {drafts : List Draft} {result : Except DiskError Unit}
    (hapart : drafts.Pairwise fun a b => Apart tree.workDir a.1 b.1)
    (hstaged : ∀ draft ∈ drafts, HasStaged tree draft.1)
    (h : (placeAll (drafts.map (·.1)) : StateM FileTree (Except DiskError Unit)) tree
      = (result, after)) :
    ∀ draft ∈ drafts, after.at? (aim tree.workDir (stagingOf draft.1)) = none := by
  induction drafts generalizing tree with
  | nil => exact List.forall_mem_nil _
  | cons draft drafts ih =>
    obtain ⟨hdraft, hdrafts⟩ := List.pairwise_cons.mp hapart
    obtain ⟨hfirst, hothers⟩ := List.forall_mem_cons.mp hstaged
    rw [List.map_cons] at h
    rcases placeAll_cases h with ⟨middle, hmoved, hthen⟩ | ⟨_, -, hdiscard, -⟩
    · have hspares := (confined_moveFile (stagingOf draft.1) draft.1).spares hmoved
      have htakes : OnlyTakes (drafts.map (·.1)) middle after :=
        (respects_placeAll (allowsPlacing_onlyTakes _)).of_run hthen
      refine List.forall_mem_cons.mpr ⟨htakes.at?_eq_none ?_
        (cleared_of_moveFile hmoved), ?_⟩
      · rw [hspares.workDir]
        exact List.forall_mem_map.mpr fun other ho => (hdraft other ho).right.symm
      · have hrest := ih (hspares.workDir ▸ hdrafts) (fun other ho => (hothers other ho).of_spares
          hspares ?_) hthen
        · rwa [hspares.workDir] at hrest
        · rintro (he | he)
          · exact (hdraft other ho).target (aim_eq_of_stagingOf he).symm
          · exact (hdraft other ho).left he.symm
    · have hclear : ∀ target ∈ (draft :: drafts).map (·.1), IsClearable tree target :=
        List.forall_mem_map.mpr fun other ho => (hstaged other ho).isClearable
      exact List.forall_mem_map.mp (cleared_of_discard hclear hdiscard)

/-! ## Both together -/

theorem tidied_of_replaceAll {drafts : List Draft} {result : Except DiskError Unit}
    (hapart : drafts.Pairwise fun a b => Apart tree.workDir a.1 b.1)
    (h : (replaceAll drafts : StateM FileTree (Except DiskError Unit)) tree = (result, after)) :
    ∀ draft ∈ drafts, IsTidied tree after (aim tree.workDir (stagingOf draft.1))
      ∧ (result = .ok () → after.at? (aim tree.workDir (stagingOf draft.1)) = none) := by
  rcases replaceAll_cases h with ⟨middle, hstaged, hthen⟩ | ⟨error, hstaged, hresult⟩
  · have hspares := (confined_stageAll [] drafts).spares hstaged
    have hgone := cleared_of_placeAll (hspares.workDir ▸ hapart)
      (hasStaged_of_stageAll hapart hstaged) hthen
    rw [hspares.workDir] at hgone
    exact fun draft hm => ⟨.inl (hgone draft hm), fun _ => hgone draft hm⟩
  · have htidied := (tidied_of_stageAll hapart (List.forall_mem_nil _) (List.forall_mem_nil _)
      hstaged).2
    exact fun draft hm => ⟨htidied draft hm, hresult ▸ nofun⟩

/-- **However writing together ends, hidden siblings are cleared away.** -/
theorem tidied_of_writeAll {drafts : List Draft} {options : WriteOptions}
    {result : Except DiskError Outcome}
    (hapart : drafts.Pairwise fun a b => Apart tree.workDir a.1 b.1)
    (h : (writeAll drafts options : StateM FileTree (Except DiskError Outcome)) tree
      = (result, after)) :
    ∀ draft ∈ drafts, IsTidied tree after (aim tree.workDir (stagingOf draft.1)) := by
  rw [writeAll_eq] at h
  split at h
  · obtain ⟨rfl, rfl⟩ := Prod.mk.inj h
    exact fun _ _ => .inr (.inl rfl)
  · cases hdry : options.dryRun with
    | true =>
      rw [hdry] at h
      obtain ⟨rfl, rfl⟩ := Prod.mk.inj h
      exact fun _ _ => .inr (.inl rfl)
    | false =>
      rw [hdry, writeOrPreview_false drafts rfl] at h
      obtain ⟨rfl, rfl⟩ := Prod.mk.inj h
      exact fun draft hm => (tidied_of_replaceAll hapart rfl draft hm).1

end Output

end Playscript
