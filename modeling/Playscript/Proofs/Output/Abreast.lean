import Mathlib.Data.List.Find
import Playscript.Proofs.FileTree.Abreast
import Playscript.Proofs.Output.Existing

/-!
# Writing beside others

Outputs are written to targets that nobody else writes to, in directories
that whoever comes first makes. So it makes no difference to the writing
whether others have been at work (`Output.agrees_writeAll`): what is found at
the targets is the same, and once the directory of a target has been made or
found, its hidden sibling and the target itself are where they are in both
runs. A directory that cannot be made is not made by others either.

The base class is made by whoever comes first as well, and there the two runs
may differ in what they do, but not in what is there in the end
(`Output.exists_ensureBase`).
-/

namespace Playscript

namespace Output

open FileTree FileTree.Pair Playscript.Path

variable {pair : Pair} {tree tree' : FileTree}

/-! ## Targets -/

/-- **A target that is mine**: it and its hidden sibling are, and whoever
comes first makes the directories on the way. -/
structure IsMine (pair : Pair) (target : Path) : Prop where
  /-- It is an entry of a directory. -/
  join : ∃ dir name, target = dir.join ⟨name⟩ ∧ pair.Owns dir name
    ∧ pair.Owns dir ("." ++ name ++ ".tmp")
  /-- What is on the way to it. -/
  ways : ∀ place, place <:+ (aim pair.start.workDir target).tail → pair.IsWay place

/-- **The directory of a target is there.** -/
def IsOpen (pair : Pair) (target : Path) (tree : FileTree) : Prop :=
  tree.at? (aim pair.start.workDir target).tail = some .directory

/-- The hidden sibling of a target is a neighbour of it. -/
theorem exists_stagingOf_eq (dir : Path) {name : String} (h : IsEntry name) :
    ∃ parent, (dir.join ⟨name⟩).parent? = some parent ∧ parent.components = dir.components
      ∧ stagingOf (dir.join ⟨name⟩) = parent.join ⟨"." ++ name ++ ".tmp"⟩ := by
  have hname := fileName?_join dir h
  obtain ⟨parent, hparent, hcomponents⟩ := exists_parent?_eq_some hname
  refine ⟨parent, hparent, ?_, ?_⟩
  · rw [hcomponents, components_join dir h, List.dropLast_concat]
  · rw [stagingOf, hname, withFileName, hname, hparent]
    rfl

/-- **A target that is mine, and its hidden sibling**, are entries of mine of
directories that are open when that of the target is. -/
theorem IsMine.exists_entries {target : Path} (h : IsMine pair target) :
    ∃ dir parent name, target = dir.join ⟨name⟩
      ∧ stagingOf target = parent.join ⟨"." ++ name ++ ".tmp"⟩
      ∧ target.parent? = some parent
      ∧ pair.Owns dir name ∧ pair.Owns parent ("." ++ name ++ ".tmp")
      ∧ aim pair.start.workDir dir = (aim pair.start.workDir target).tail
      ∧ aim pair.start.workDir parent = (aim pair.start.workDir target).tail := by
  obtain ⟨⟨dir, name, rfl, howns, hstaging⟩, -⟩ := h
  obtain ⟨parent, hparent, hcomponents, hsibling⟩ := exists_stagingOf_eq dir howns.entry
  have haim : aim pair.start.workDir dir = (aim pair.start.workDir (dir.join ⟨name⟩)).tail := by
    rw [aim_join dir _ howns.entry]
    rfl
  refine ⟨dir, parent, name, rfl, hsibling, hparent, howns, hstaging.of_components hcomponents,
    haim, ?_⟩
  rw [← haim, aim, aim, hcomponents]

/-! ## Staging -/

theorem agrees_makeParent (h : pair.Abreast tree tree') {target : Path}
    (hmine : IsMine pair target) :
    pair.Agrees (makeParent target) tree tree' fun made next =>
      made = .ok () → IsOpen pair target next := by
  obtain ⟨dir, parent, name, -, -, hparent, -, hstaging, -, haim⟩ := hmine.exists_entries
  rw [makeParent, hparent]
  dsimp only
  split
  · next hempty =>
    refine .pure h fun _ => ?_
    obtain rfl : parent = ⟨""⟩ := congrArg Path.mk hempty
    rw [IsOpen, ← haim]
    exact h.workDir_eq ▸ h.form.workDir
  · have hlength : parent.components.length ≤ parent.text.length := length_components_le parent
    refine (h.agrees_makeFirst hstaging.straight (isTidy_of_parent? hparent) ?_ hlength).mono ?_
    · rw [haim]
      exact hmine.ways
    · intro made next hopen hmade
      rw [IsOpen, ← haim]
      exact hopen hmade

/-- **Staging a draft.** -/
theorem agrees_stage (h : pair.Abreast tree tree') {draft : Draft} (hmine : IsMine pair draft.1) :
    pair.Agrees (stage draft) tree tree' fun made next =>
      made = .ok () → IsOpen pair draft.1 next := by
  obtain ⟨dir, parent, name, -, hsibling, -, -, hstaging, -, haim⟩ := hmine.exists_entries
  refine (agrees_makeParent h hmine).bind fun made middle middle' habreast _ hopen => ?_
  cases made with
  | error error => exact .pure habreast nofun
  | ok _ =>
    have hthere := hopen rfl
    show pair.Agrees (Disk.writeText (stagingOf draft.1) draft.2) middle middle' _
    rw [IsOpen, ← haim] at hthere
    rw [hsibling]
    refine (habreast.agrees_writeText hstaging hthere draft.2).stays.mono ?_
    rintro made next ⟨-, hstays⟩ -
    rw [IsOpen, ← haim]
    exact hstays _ hthere

theorem agrees_discard (h : pair.Abreast tree tree') {targets : List Path}
    (hmine : ∀ target ∈ targets, IsMine pair target)
    (hopen : ∀ target ∈ targets, IsOpen pair target tree) :
    pair.Agrees (discard targets) tree tree' fun _ _ => True := by
  induction targets generalizing tree tree' with
  | nil => exact .pure h trivial
  | cons target targets ih =>
    obtain ⟨htarget, htargets⟩ := List.forall_mem_cons.mp hmine
    obtain ⟨hfirst, hothers⟩ := List.forall_mem_cons.mp hopen
    obtain ⟨dir, parent, name, -, hsibling, -, -, hstaging, -, haim⟩ := htarget.exists_entries
    rw [discard, hsibling]
    rw [IsOpen, ← haim] at hfirst
    exact (h.agrees_removeFile hstaging hfirst).bind fun _ middle middle' habreast hstays _ =>
      ih habreast htargets fun other hm => hstays _ (hothers other hm)

/-- **Staging drafts**, or none of them. -/
theorem agrees_stageAll (h : pair.Abreast tree tree') {staged : List Path} {drafts : List Draft}
    (hstaged : ∀ target ∈ staged, IsMine pair target)
    (hopen : ∀ target ∈ staged, IsOpen pair target tree)
    (hdrafts : ∀ draft ∈ drafts, IsMine pair draft.1) :
    pair.Agrees (stageAll staged drafts) tree tree' fun made next =>
      made = .ok () → ∀ draft ∈ drafts, IsOpen pair draft.1 next := by
  induction drafts generalizing staged tree tree' with
  | nil => exact .pure h fun _ => List.forall_mem_nil _
  | cons draft drafts ih =>
    obtain ⟨hdraft, hrest⟩ := List.forall_mem_cons.mp hdrafts
    rw [stageAll]
    refine (agrees_stage h hdraft).bind fun made middle middle' habreast hstays hmade => ?_
    have hstill : ∀ target ∈ staged, IsOpen pair target middle :=
      fun target hm => hstays _ (hopen target hm)
    cases made with
    | error error =>
      exact (agrees_discard habreast hstaged hstill).bind fun _ _ _ habreast _ _ =>
        .pure habreast fun hmade => by cases hmade
    | ok _ =>
      have hthere := hmade rfl
      refine (ih habreast ?_ ?_ hrest).stays.mono ?_
      · exact List.forall_mem_append.mpr ⟨hstaged, List.forall_mem_singleton.mpr hdraft⟩
      · exact List.forall_mem_append.mpr ⟨hstill, List.forall_mem_singleton.mpr hthere⟩
      · intro made next hpost hok
        exact List.forall_mem_cons.mpr ⟨hpost.2 _ hthere, hpost.1 hok⟩

/-! ## Moving into place -/

theorem agrees_placeAll (h : pair.Abreast tree tree') {targets : List Path}
    (hmine : ∀ target ∈ targets, IsMine pair target)
    (hopen : ∀ target ∈ targets, IsOpen pair target tree) :
    pair.Agrees (placeAll targets) tree tree' fun _ _ => True := by
  induction targets generalizing tree tree' with
  | nil => exact .pure h trivial
  | cons target targets ih =>
    obtain ⟨htarget, htargets⟩ := List.forall_mem_cons.mp hmine
    obtain ⟨hfirst, -⟩ := List.forall_mem_cons.mp hopen
    obtain ⟨dir, parent, name, hjoin, hsibling, -, howns, hstaging, hdir, hparent⟩ :=
      htarget.exists_entries
    have hmove : pair.Agrees (Disk.moveFile (stagingOf target) target) tree tree'
        fun _ _ => True := by
      rw [IsOpen] at hfirst
      rw [hsibling, hjoin]
      exact h.agrees_moveFile hstaging howns (hparent ▸ hfirst) (hdir ▸ hfirst)
    rw [placeAll]
    refine hmove.bind fun moved middle middle' habreast hstays _ => ?_
    have hstill : ∀ other ∈ target :: targets, IsOpen pair other middle :=
      fun other hm => hstays _ (hopen other hm)
    cases moved with
    | ok _ => exact ih habreast htargets (List.forall_mem_cons.mp hstill).2
    | error error =>
      exact (agrees_discard habreast hmine hstill).bind fun _ _ _ habreast _ _ =>
        .pure habreast trivial

/-! ## Both together -/

variable {drafts : List Draft}

theorem agrees_replaceAll (h : pair.Abreast tree tree')
    (hmine : ∀ draft ∈ drafts, IsMine pair draft.1) :
    pair.Agrees (replaceAll drafts) tree tree' fun made next =>
      made = .ok () → ∀ draft ∈ drafts, IsOpen pair draft.1 next := by
  rw [replaceAll]
  refine (agrees_stageAll h (List.forall_mem_nil _) (List.forall_mem_nil _) hmine).bind
    fun made middle middle' habreast _ hmade => ?_
  cases made with
  | error error => exact .pure habreast fun hmade => by cases hmade
  | ok _ =>
    have hopen := hmade rfl
    refine (agrees_placeAll habreast (List.forall_mem_map.mpr hmine)
      (List.forall_mem_map.mpr hopen)).stays.mono ?_
    rintro made next ⟨-, hstays⟩ - draft hm
    exact hstays _ (hopen draft hm)

theorem agrees_writeOrPreview (h : pair.Abreast tree tree')
    (hmine : ∀ draft ∈ drafts, IsMine pair draft.1) (dryRun : Bool) :
    pair.Agrees (writeOrPreview drafts dryRun) tree tree' fun written next =>
      ∀ paths, written = .ok (.written paths) → ∀ draft ∈ drafts, IsOpen pair draft.1 next := by
  rw [writeOrPreview]
  split
  · exact .pure h fun _ hwritten => by cases hwritten
  · refine (agrees_replaceAll h hmine).bind fun replaced middle middle' habreast _ hreplaced => ?_
    cases replaced with
    | error error => exact .pure habreast fun _ hwritten => by cases hwritten
    | ok _ => exact .pure habreast fun _ _ => hreplaced rfl

/-- **Writing drafts together** comes to the same whether others have been at
work or not. -/
theorem agrees_writeAll (h : pair.Abreast tree tree')
    (hmine : ∀ draft ∈ drafts, IsMine pair draft.1) (options : WriteOptions) :
    pair.Agrees (writeAll drafts options) tree tree' fun written next =>
      ∀ paths, written = .ok (.written paths) → ∀ draft ∈ drafts, IsOpen pair draft.1 next := by
  have hwrite := writeAll_eq drafts options tree
  have hwrite' := writeAll_eq drafts options tree'
  have hfound : (drafts.map (·.1)).find? (fun path => (tree'.find? path).isSome)
      = (drafts.map (·.1)).find? fun path => (tree.find? path).isSome := by
    refine List.find?_congr fun path hm => ?_
    obtain ⟨draft, hdraft, rfl⟩ := List.mem_map.mp hm
    obtain ⟨dir, name, hjoin, howns, -⟩ := (hmine draft hdraft).join
    rw [hjoin, h.find?_eq howns]
  rw [hfound] at hwrite'
  split at hwrite
  · next existing hexisting =>
    rw [hexisting] at hwrite'
    exact .of_eq h hwrite hwrite' nofun
  · next hnone =>
    rw [hnone] at hwrite'
    exact .congr hwrite hwrite' (agrees_writeOrPreview h hmine options.dryRun)

/-! ## The base class -/

/-- The name of the base class can be had. -/
theorem isUsable_baseFile : IsUsable Page.baseFile :=
  ⟨.of_length (List.forall_mem_ne'.mpr (by decide)) (by decide), by decide, by decide⟩

variable {dir : Path}

/-- **In a directory that is there** the base class is written unless
something is in its place. -/
theorem ensureBase_of_directory (hform : tree.WellFormed) (hstraight : dir.IsStraight)
    (htidy : dir.IsTidy) (hopen : tree.at? (aim tree.workDir dir) = some .directory) :
    (ensureBase dir : StateM FileTree (Except DiskError Bool)) tree
      = match tree.at? (Page.baseFile :: aim tree.workDir dir) with
        | some _ => (.ok false, tree)
        | none => (.ok true,
            tree.put (Page.baseFile :: aim tree.workDir dir) (.file Page.baseSource.toUTF8)) := by
  have hlook : (Disk.isThere (dir.join ⟨Page.baseFile⟩) : StateM FileTree Bool) tree
      = ((tree.at? (Page.baseFile :: aim tree.workDir dir)).isSome, tree) := by
    rw [← hform.find?_join hstraight isUsable_baseFile.entry]
    rfl
  rw [ensureBase, run_bind hlook]
  cases hthere : tree.at? (Page.baseFile :: aim tree.workDir dir) with
  | some node => rfl
  | none =>
    have hmake : (Disk.makeAll dir : StateM FileTree (Except DiskError Unit)) tree
        = (.ok (), tree) := by
      obtain ⟨above, hancestors⟩ := ancestorsUpTo_eq_cons dir.text.length dir
      rw [Disk.makeAll, ancestors, hancestors]
      exact hform.makeFirst_of_directory ⟨hstraight, htidy, hform.null_not_mem hstraight hopen⟩
        hopen above
    have hwrite : (Disk.writeText (dir.join ⟨Page.baseFile⟩) Page.baseSource
          : StateM FileTree (Except DiskError Unit)) tree
        = (.ok (), tree.put (Page.baseFile :: aim tree.workDir dir)
            (.file Page.baseSource.toUTF8)) := by
      show change (·.writeBytes _ _) tree = _
      rw [change, writeBytes, hform.locate_join_of_open hstraight hopen isUsable_baseFile.entry,
        seat, if_pos ⟨isUsable_baseFile.null, isUsable_baseFile.short⟩]
      dsimp only [bind, Except.bind]
      rw [hthere]
      rfl
    rw [if_neg (by rw [Option.isSome_none]; exact Bool.false_ne_true), run_bind hmake]
    exact run_bind hwrite _

/-- **A directory in which whoever comes first writes the base class.** -/
structure SharesBase (pair : Pair) (dir : Path) : Prop where
  /-- It never leads up. -/
  straight : dir.IsStraight
  /-- It ends in a name. -/
  tidy : dir.IsTidy
  /-- The directory is on the way of all. -/
  way : pair.IsWay (aim pair.start.workDir dir)
  /-- The others have touched the base class in no other way. -/
  theirs : ¬ pair.theirs (Page.baseFile :: aim pair.start.workDir dir)
  /-- The base class may be made there. -/
  base : pair.shared (Page.baseFile :: aim pair.start.workDir dir)
    (.file Page.baseSource.toUTF8)
  /-- Nothing else may. -/
  only : ∀ node, pair.shared (Page.baseFile :: aim pair.start.workDir dir) node →
    node = .file Page.baseSource.toUTF8

/-- **Where the directory is there, the base class is in the end**, whether
others have been at work or not. -/
theorem exists_ensureBase (h : pair.Abreast tree tree') (hshares : SharesBase pair dir)
    (hopen : tree.at? (aim pair.start.workDir dir) = some .directory) :
    ∃ made made' next next',
      (ensureBase dir : StateM FileTree (Except DiskError Bool)) tree = (.ok made, next)
        ∧ (ensureBase dir : StateM FileTree (Except DiskError Bool)) tree' = (.ok made', next')
        ∧ pair.Abreast next next' ∧ StaysOpen tree next := by
  have hopen' := h.ahead.at?_eq_some hshares.way.theirs hopen
  have hbase := ensureBase_of_directory h.form hshares.straight hshares.tidy
    (h.workDir_eq.symm ▸ hopen)
  have hbase' := ensureBase_of_directory h.form' hshares.straight hshares.tidy
    (h.workDir_eq'.symm ▸ hopen')
  rw [h.workDir_eq] at hbase
  rw [h.workDir_eq'] at hbase'
  cases hthere : tree.at? (Page.baseFile :: aim pair.start.workDir dir) with
  | some node =>
    rw [hthere] at hbase
    rw [h.ahead.at?_eq_some hshares.theirs hthere] at hbase'
    exact ⟨_, _, _, _, hbase, hbase', h, fun _ hstill => hstill⟩
  | none =>
    rw [hthere] at hbase
    have hopens := staysOpen_put tree (ne_directory_of_none hthere)
      (.file Page.baseSource.toUTF8)
    rcases h.put_unlessThere hshares.theirs hshares.base hshares.only hthere
      ⟨hopen, isUsable_baseFile⟩ (fun _ => ⟨hopen', isUsable_baseFile⟩)
      with ⟨hnone', hnext⟩ | ⟨hthere', hnext⟩
    · rw [hnone'] at hbase'
      exact ⟨_, _, _, _, hbase, hbase', hnext, hopens⟩
    · rw [hthere'] at hbase'
      exact ⟨_, _, _, _, hbase, hbase', hnext, hopens⟩

end Output

end Playscript
