import Playscript.Proofs.Disk
import Playscript.Proofs.Output.Clearing
import Playscript.Volume

/-!
# Writing with too little room

On a volume a write may end before its text does. As long as none does, the
volume is to the program what its tree is. And of writing together only the
staging writes anything. So drafts are replaced as they are on the tree alone, or
staging runs out of room at one of them (`Output.replaceAll_cases_of_volume`).

What is done then is what is done when staging fails in any other way: the
siblings that have been staged are removed. The sibling at which there was too
little room is not among them, since it was never staged. It is there with the
beginning of its text, and nothing takes it away (`Output.RunsShort.left`).
-/

namespace Playscript

open FileTree

namespace Volume

/-- **A volume has its tree for a disk**, as far as it is not writing. -/
theorem carries_onTree : Disk.Carries (@onTree) where
  pure_eq _ := rfl
  bind_eq _ _ := rfl
  isThere_eq _ := rfl
  isDirectory_eq _ := rfl
  makeDirectory_eq _ := rfl
  moveFile_eq _ _ := rfl
  removeFile_eq _ := rfl

variable {volume last : Volume}

theorem onTree_of_eq {α : Type} {op : StateM FileTree α} {value : α} {after : FileTree}
    (h : op volume.tree = (value, after)) :
    onTree op volume = (value, { volume with tree := after }) := by
  rw [onTree, h]

/-- What is done to a volume is done to its tree. -/
theorem of_onTree {α : Type} {op : StateM FileTree α} {value : α}
    (h : onTree op volume = (value, last)) : op volume.tree = (value, last.tree) := by
  obtain ⟨rfl, rfl⟩ := Prod.mk.inj h
  rfl

/-- **A text is written as on the tree**, or there is too little room for it. -/
theorem writeText_cases {path : Path} {text : String} {result : Except DiskError Unit}
    (h : (Disk.writeText path text : StateM Volume (Except DiskError Unit)) volume
      = (result, last)) :
    (Disk.writeText path text : StateM FileTree (Except DiskError Unit)) volume.tree
        = (result, last.tree)
      ∨ result = .error .full ∧ ∃ room < text.utf8ByteSize,
        volume.tree.writeBytes path (text.toUTF8.extract 0 room) = .ok last.tree := by
  change writeText path text volume = _ at h
  rw [writeText] at h
  split at h
  · exact .inl (of_onTree h)
  · next room rooms _ =>
    exact (writeWithin_cases (of_onTree h)).imp_right fun ⟨hresult, hroom, hwrite⟩ =>
      ⟨hresult, room, hroom, hwrite⟩

end Volume

namespace Output

open Volume

variable {tree before after : FileTree} {volume last : Volume} {draft : Draft}
  {drafts : List Draft} {staged : List Path} {result : Except DiskError Unit}

/-! ## Running out of room -/

/-- **There is too little room for a draft**: the way to its target is made, and
its sibling holds the beginning of its text. -/
def IsCutShort (draft : Draft) (before after : FileTree) : Prop :=
  ∃ middle, (makeParent draft.1 : StateM FileTree (Except DiskError Unit)) before
      = (.ok (), middle)
    ∧ ∃ room < draft.2.utf8ByteSize,
      middle.writeBytes (stagingOf draft.1) (draft.2.toUTF8.extract 0 room) = .ok after

/-- **Staging runs out of room**: some drafts are staged, there is too little room
for the next one, and the siblings of those that were staged are removed. -/
def RunsShort (staged : List Path) (drafts : List Draft) (before after : FileTree) : Prop :=
  ∃ front draft back, drafts = front ++ draft :: back
    ∧ ∃ middle cut,
      (stageAll staged front : StateM FileTree (Except DiskError Unit)) before = (.ok (), middle)
      ∧ IsCutShort draft middle cut
      ∧ (discard (staged ++ front.map (·.1)) : StateM FileTree Unit) cut = ((), after)

/-- A draft that is staged in front makes no difference to it. -/
theorem RunsShort.cons {middle : FileTree}
    (hstage : (stage draft : StateM FileTree (Except DiskError Unit)) before = (.ok (), middle))
    (h : RunsShort (staged ++ [draft.1]) drafts middle after) :
    RunsShort staged (draft :: drafts) before after := by
  obtain ⟨front, last, back, rfl, between, cut, hstaged, hcut, hdiscard⟩ := h
  refine ⟨draft :: front, last, back, rfl, between, cut, ?_, hcut, ?_⟩
  · rw [stageAll, run_bind hstage]
    exact hstaged
  · rwa [List.append_assoc] at hdiscard

/-- **A draft is staged as on the tree**, or there is too little room for it. -/
theorem stage_cases_of_volume
    (h : (stage draft : StateM Volume (Except DiskError Unit)) volume = (result, last)) :
    (stage draft : StateM FileTree (Except DiskError Unit)) volume.tree = (result, last.tree)
      ∨ result = .error .full ∧ IsCutShort draft volume.tree last.tree := by
  rw [stage, ← carries_onTree.makeParent] at h
  obtain ⟨made, middle, hmade, hthen⟩ := of_bind h
  have hparent := of_onTree hmade
  rw [stage, run_bind hparent]
  cases made with
  | ok _ =>
    rcases writeText_cases hthen with hwrite | ⟨hresult, room, hroom, hwrite⟩
    · exact .inl hwrite
    · exact .inr ⟨hresult, middle.tree, hparent, room, hroom, hwrite⟩
  | error error =>
    obtain ⟨rfl, rfl⟩ := Prod.mk.inj hthen
    exact .inl rfl

/-- **Drafts are staged as on the tree**, or staging runs out of room. -/
theorem stageAll_cases_of_volume
    (h : (stageAll staged drafts : StateM Volume (Except DiskError Unit)) volume
      = (result, last)) :
    (stageAll staged drafts : StateM FileTree (Except DiskError Unit)) volume.tree
        = (result, last.tree)
      ∨ result = .error .full ∧ RunsShort staged drafts volume.tree last.tree := by
  induction drafts generalizing staged volume with
  | nil =>
    obtain ⟨rfl, rfl⟩ := Prod.mk.inj h
    exact .inl rfl
  | cons draft drafts ih =>
    rw [stageAll] at h
    obtain ⟨made, middle, hmade, hthen⟩ := of_bind h
    cases made with
    | ok _ =>
      have hstage := (stage_cases_of_volume hmade).resolve_right fun hcut => by cases hcut.1
      rw [stageAll, run_bind hstage]
      exact (ih hthen).imp_right fun hshort => ⟨hshort.1, hshort.2.cons hstage⟩
    | error error =>
      obtain ⟨_, cleared, hdiscard, hlast⟩ := of_bind hthen
      rw [← carries_onTree.discard] at hdiscard
      obtain ⟨rfl, rfl⟩ := Prod.mk.inj hlast
      rcases stage_cases_of_volume hmade with hstage | ⟨herror, hcut⟩
      · refine .inl ?_
        rw [stageAll, run_bind hstage]
        exact run_bind (of_onTree hdiscard) _
      · obtain rfl := Except.error.inj herror
        refine .inr ⟨rfl, [], draft, drafts, rfl, volume.tree, middle.tree, rfl, hcut, ?_⟩
        rw [List.map_nil, List.append_nil]
        exact of_onTree hdiscard

/-- **Drafts are replaced as on the tree**, or staging runs out of room. -/
theorem replaceAll_cases_of_volume
    (h : (replaceAll drafts : StateM Volume (Except DiskError Unit)) volume = (result, last)) :
    (replaceAll drafts : StateM FileTree (Except DiskError Unit)) volume.tree
        = (result, last.tree)
      ∨ result = .error .full ∧ RunsShort [] drafts volume.tree last.tree := by
  rw [replaceAll] at h
  obtain ⟨made, middle, hstaged, hthen⟩ := of_bind h
  cases made with
  | ok _ =>
    have hstage := (stageAll_cases_of_volume hstaged).resolve_right fun hshort => by
      cases hshort.1
    dsimp only at hthen
    rw [← carries_onTree.placeAll] at hthen
    refine .inl ?_
    rw [replaceAll, run_bind hstage]
    exact of_onTree hthen
  | error error =>
    obtain ⟨rfl, rfl⟩ := Prod.mk.inj hthen
    refine (stageAll_cases_of_volume hstaged).imp_left fun hstage => ?_
    rw [replaceAll, run_bind hstage]
    rfl

/-- Nothing is found on a volume but what is found in its tree. -/
theorem firstThere?_eq_of_volume (paths : List Path) (volume : Volume) :
    (firstThere? paths : StateM Volume (Option Path)) volume
      = (paths.find? fun path => (volume.tree.find? path).isSome, volume) := by
  rw [← carries_onTree.firstThere?]
  exact onTree_of_eq (firstThere?_eq paths volume.tree)

/-- **Drafts are written together as on the tree**, or staging runs out of room. -/
theorem writeAll_cases_of_volume {options : WriteOptions} {result : Except DiskError Outcome}
    (h : (writeAll drafts options : StateM Volume (Except DiskError Outcome)) volume
      = (result, last)) :
    (writeAll drafts options : StateM FileTree (Except DiskError Outcome)) volume.tree
        = (result, last.tree)
      ∨ result = .error .full ∧ RunsShort [] drafts volume.tree last.tree := by
  rw [writeAll_of_firstThere? (firstThere?_eq_of_volume _ volume)] at h
  rw [writeAll_eq]
  split at h
  · obtain ⟨rfl, rfl⟩ := Prod.mk.inj h
    exact .inl rfl
  · cases hdry : options.dryRun with
    | true =>
      rw [hdry] at h
      obtain ⟨rfl, rfl⟩ := Prod.mk.inj h
      exact .inl rfl
    | false =>
      obtain ⟨replaced, after, hreplaced⟩ : ∃ replaced after,
          (replaceAll drafts : StateM Volume (Except DiskError Unit)) volume
            = (replaced, after) := ⟨_, _, rfl⟩
      rw [hdry, writeOrPreview_false drafts hreplaced] at h
      obtain ⟨rfl, rfl⟩ := Prod.mk.inj h
      exact (replaceAll_cases_of_volume hreplaced).imp (writeOrPreview_false drafts)
        fun ⟨hfull, hshort⟩ => ⟨hfull ▸ rfl, hshort⟩

/-! ## What is left then -/

namespace IsCutShort

/-- Where there is too little room, nothing is done but what staging does. -/
theorem respects {R : FileTree → FileTree → Prop} [IsPreorder FileTree R] {targets : List Path}
    (h : IsCutShort draft before after) (hallows : AllowsStaging R targets)
    (hm : draft.1 ∈ targets) : R before after := by
  obtain ⟨middle, hparent, room, -, hwrite⟩ := h
  have hway : R before middle :=
    (respects_makeParent (hallows.directories draft.1 hm)).of_run hparent
  exact trans_of R hway (hallows.stage draft.1 hm middle _ after hwrite)

theorem spares (h : IsCutShort draft before after) :
    Spares (IsStaging before.workDir ([draft].map (·.1))) before after :=
  h.respects (allowsStaging_sparesFrom _) (List.mem_singleton_self _) rfl

/-- What has been written by then is there. -/
theorem holdsPart (h : IsCutShort draft before after) :
    after.HoldsPart (stagingOf draft.1) draft.2 := by
  obtain ⟨middle, -, room, hroom, hwrite⟩ := h
  obtain ⟨hkind, rfl⟩ := of_writeBytes hwrite
  exact ⟨room, hroom, middle.at?_put_self (ne_nil_of_at? hkind) _⟩

end IsCutShort

namespace RunsShort

/-- Running out of room does what the steps of staging do. -/
theorem respects {R : FileTree → FileTree → Prop} [IsPreorder FileTree R]
    (h : RunsShort staged drafts before after)
    (hallows : AllowsStaging R (staged ++ drafts.map (·.1))) : R before after := by
  obtain ⟨front, draft, back, rfl, middle, cut, hstaged, hcut, hdiscard⟩ := h
  have hmem : draft.1 ∈ staged ++ (front ++ draft :: back).map (·.1) :=
    List.mem_append_right _ (List.mem_map_of_mem (List.mem_append_right _ List.mem_cons_self))
  have hsub : staged ++ front.map (·.1) ⊆ staged ++ (front ++ draft :: back).map (·.1) := by
    rw [List.map_append, ← List.append_assoc]
    exact List.subset_append_left _ _
  have hfront : AllowsStaging R (staged ++ front.map (·.1)) :=
    ⟨fun target hm => hallows.discard target (hsub hm),
      fun target hm => hallows.directories target (hsub hm),
      fun target hm => hallows.stage target (hsub hm)⟩
  have hbefore : R before middle := (respects_stageAll hfront).of_run hstaged
  have hafter : R cut after := (respects_discard hfront.discard).of_run hdiscard
  exact trans_of R hbefore (trans_of R (hcut.respects hallows hmem) hafter)

/-- **The sibling at which there was too little room is left** with the beginning
of its text, and that one alone. -/
theorem left (hapart : drafts.Pairwise fun a b => Apart before.workDir a.1 b.1)
    (h : RunsShort [] drafts before after) :
    ∃ front draft back, drafts = front ++ draft :: back
      ∧ after.HoldsPart (stagingOf draft.1) draft.2
      ∧ ∀ other ∈ front ++ back,
        IsTidied before after (aim before.workDir (stagingOf other.1)) := by
  obtain ⟨front, draft, back, rfl, middle, cut, hstaged, hcut, hdiscard⟩ := h
  rw [List.nil_append] at hdiscard
  obtain ⟨hfront, hrest, hacross⟩ := List.pairwise_append.mp hapart
  have hback := (List.pairwise_cons.mp hrest).1
  have hstages := (of_stageAll hfront hstaged).1
  have hcuts := hcut.spares
  have hclears := (confined_discard (front.map (·.1))).spares hdiscard
  have htakes : OnlyTakes [] cut after := (onlyTakes_discard _).of_run hdiscard
  rw [hstages.workDir] at hcuts
  rw [hcuts.workDir, hstages.workDir] at hclears
  have hdir : cut.workDir = before.workDir := hcuts.workDir.trans hstages.workDir
  refine ⟨front, draft, back, rfl, hcut.holdsPart.of_spares hclears ?_,
    List.forall_mem_append.mpr ⟨fun other ho => .inl ?_, fun other ho => ?_⟩⟩
  · rw [hdir]
    exact not_isStaging_stagingOf fun other ho =>
      (hacross other ho draft List.mem_cons_self).target.symm
  · have hclear : ∀ target ∈ front.map (·.1), IsClearable cut target := by
      refine List.forall_mem_map.mpr fun other ho => HasStaged.isClearable ?_
      refine (hasStaged_of_stageAll hfront hstaged other ho).of_spares hcuts ?_
      rw [hstages.workDir]
      exact not_isStaging_stagingOf (List.forall_mem_singleton.mpr
        (hacross other ho draft List.mem_cons_self).target)
    have hgone := cleared_of_discard hclear hdiscard other.1 (List.mem_map_of_mem ho)
    rwa [hdir] at hgone
  · -- a draft behind was not come to: nothing was done at its sibling but to clear away
    have hmade : Spares (IsStaging before.workDir ((front ++ [draft]).map (·.1))) before cut := by
      rw [List.map_append]
      exact (hstages.mono (.of_subset (List.subset_append_left _ _))).trans
        (hcuts.mono (.of_subset (List.subset_append_right _ _)))
    refine IsTidied.of_spares ?_ hmade (not_isStaging_stagingOf
      (List.forall_mem_append.mpr ⟨fun earlier he => ?_, List.forall_mem_singleton.mpr ?_⟩))
    · exact (htakes.taken _ (List.forall_mem_nil _)).elim (fun hsame => .inr (.inl hsame)) .inl
    · exact (hacross earlier he other (List.mem_cons_of_mem _ ho)).target.symm
    · exact (hback other ho).target.symm

end RunsShort

end Output

end Playscript
