import Mathlib.Data.List.Pairwise
import Playscript.Proofs.Output.Steps

/-!
# What is left when writing together fails

Drafts are staged in hidden siblings first, and staging touches no target.
So a failure there leaves all targets as they were. But then the siblings
are moved into place one after another, and a move that fails does not take
back those before it. What is left is therefore a cut through the drafts:
in front of it all targets hold what they should, and behind it all are as
they were (`Output.exists_placed_of_writeAll`). The cut may go through the
middle (`Output.not_forall_spared_of_writeAll`).

Targets are told apart by the places they lead to, and no target may be the
hidden sibling of another (`Output.Apart`). That one is not its own hidden
sibling, and that siblings are different when targets are, follows from how
a sibling is named.
-/

namespace Playscript

namespace Output

open FileTree

/-! ## Hidden siblings -/

theorem length_staging (name : String) :
    ("." ++ name ++ ".tmp").toList.length = name.toList.length + 5 := by
  rw [String.toList_append, String.toList_append, List.length_append, List.length_append]
  show 1 + name.toList.length + 4 = _
  omega

/-- The name of a hidden sibling is one entry. -/
theorem isEntry_staging {name : String} (h : ∀ c ∈ name.toList, c ≠ '/') :
    Path.IsEntry ("." ++ name ++ ".tmp") := by
  refine .of_length (fun c hc => ?_) (by rw [length_staging]; omega)
  rw [String.toList_append, String.toList_append] at hc
  rcases List.mem_append.mp hc with hc | hc
  · rcases List.mem_append.mp hc with hc | hc
    · exact List.forall_mem_ne'.mpr (by decide) c hc
    · exact h c hc
  · exact List.forall_mem_ne'.mpr (by decide) c hc

/-- The hidden sibling of a target that ends in a name stands beside it. -/
theorem exists_aim_eq_cons (workDir : Location) {target : Path} {name : String}
    (h : target.fileName? = some name) :
    ∃ dir, aim workDir target = name :: dir
      ∧ aim workDir (stagingOf target) = ("." ++ name ++ ".tmp") :: dir := by
  refine ⟨target.components.dropLast.foldl enter workDir, ?_, ?_⟩
  · rw [aim, Path.components_eq_concat h, List.foldl_append, List.dropLast_concat]
    rfl
  · have hentry := isEntry_staging (Path.of_fileName? h).2
    rw [aim, stagingOf, h, Option.getD_some, Path.components_withFileName _ hentry, h,
      Option.isSome_some, if_pos rfl, List.foldl_append]
    rfl

/-- That of a target that does not is within it. -/
theorem aim_stagingOf_of_none (workDir : Location) {target : Path} (h : target.fileName? = none) :
    aim workDir (stagingOf target) = "..tmp" :: aim workDir target := by
  have hentry : Path.IsEntry ("." ++ "" ++ ".tmp") := isEntry_staging (by simp)
  rw [aim, stagingOf, h, Option.getD_none, Path.components_withFileName _ hentry, h,
    Option.isSome_none, if_neg Bool.false_ne_true, List.foldl_append]
  rfl

/-- **No target is its own hidden sibling.** -/
theorem aim_stagingOf_ne (workDir : Location) (target : Path) :
    aim workDir (stagingOf target) ≠ aim workDir target := by
  cases hname : target.fileName? with
  | none =>
    rw [aim_stagingOf_of_none workDir hname]
    exact List.cons_ne_self _ _
  | some name =>
    obtain ⟨dir, haim, hstaging⟩ := exists_aim_eq_cons workDir hname
    rw [haim, hstaging]
    intro he
    have hlength := congrArg (·.toList.length) (List.cons.inj he).1
    simp only [length_staging] at hlength
    omega

/-- Between the dots there is a name, if the target ends in one. -/
theorem staging_ne_dots {target : Path} {name : String} (h : target.fileName? = some name) :
    "." ++ name ++ ".tmp" ≠ "..tmp" := by
  intro he
  have hlength := congrArg (·.toList.length) he
  simp only [length_staging] at hlength
  have hempty : name.toList = [] := List.eq_nil_of_length_eq_zero (Nat.add_right_cancel hlength)
  exact (Path.of_fileName? h).1 (String.toList_eq_nil_iff.mp hempty)

/-- **Targets with one hidden sibling lead to one place.** -/
theorem aim_eq_of_stagingOf {workDir : Location} {a b : Path}
    (h : aim workDir (stagingOf a) = aim workDir (stagingOf b)) :
    aim workDir a = aim workDir b := by
  cases ha : a.fileName? with
  | none =>
    rw [aim_stagingOf_of_none workDir ha] at h
    cases hb : b.fileName? with
    | none =>
      rw [aim_stagingOf_of_none workDir hb] at h
      exact (List.cons.inj h).2
    | some name =>
      obtain ⟨dir, -, hstaging⟩ := exists_aim_eq_cons workDir hb
      rw [hstaging] at h
      exact absurd (List.cons.inj h).1.symm (staging_ne_dots hb)
  | some name =>
    obtain ⟨dir, haim, hstaging⟩ := exists_aim_eq_cons workDir ha
    rw [hstaging] at h
    cases hb : b.fileName? with
    | none =>
      rw [aim_stagingOf_of_none workDir hb] at h
      exact absurd (List.cons.inj h).1 (staging_ne_dots ha)
    | some other =>
      obtain ⟨dir', haim', hstaging'⟩ := exists_aim_eq_cons workDir hb
      rw [hstaging'] at h
      obtain ⟨hnames, hdirs⟩ := List.cons.inj h
      have hname : name = other := by
        have htexts := congrArg String.toList hnames
        simp only [String.toList_append] at htexts
        exact String.toList_inj.mp (List.append_cancel_left (List.append_cancel_right htexts))
      rw [haim, haim', hname, hdirs]

/-! ## Staging -/

/-- **Two targets that are not in each other's way**: they lead to different
places, and neither to the hidden sibling of the other. -/
structure Apart (workDir : Location) (a b : Path) : Prop where
  /-- The targets are different. -/
  target : aim workDir a ≠ aim workDir b
  /-- The first is not the sibling of the second. -/
  left : aim workDir a ≠ aim workDir (stagingOf b)
  /-- The second is not the sibling of the first. -/
  right : aim workDir b ≠ aim workDir (stagingOf a)

/-- The places of hidden siblings. -/
def IsStaging (workDir : Location) (targets : List Path) (location : Location) : Prop :=
  ∃ target ∈ targets, location = aim workDir (stagingOf target)

variable {workDir : Location}

theorem IsStaging.of_subset {targets others : List Path} (h : targets ⊆ others) :
    ∀ location, IsStaging workDir targets location → IsStaging workDir others location := by
  rintro location ⟨target, hm, he⟩
  exact ⟨target, h hm, he⟩

theorem isStaging_of_mem {targets : List Path} {target : Path} (h : target ∈ targets) :
    ∀ location, location = aim workDir (stagingOf target) → IsStaging workDir targets location :=
  fun _ he => ⟨target, h, he⟩

/-- A hidden sibling is none of those of targets that lead elsewhere. -/
theorem not_isStaging_stagingOf {drafts : List Draft} {target : Path}
    (h : ∀ draft ∈ drafts, aim workDir target ≠ aim workDir draft.1) :
    ¬ IsStaging workDir (drafts.map (·.1)) (aim workDir (stagingOf target)) := by
  rintro ⟨other, hm, he⟩
  obtain ⟨draft, hdraft, rfl⟩ := List.mem_map.mp hm
  exact h draft hdraft (aim_eq_of_stagingOf he)

/-- Staging touches the siblings of targets only. -/
theorem allowsStaging_sparesFrom (targets : List Path) :
    AllowsStaging (SparesFrom workDir (IsStaging workDir targets)) targets where
  discard := by
    rintro target hm tree after hremove rfl
    exact (spares_of_removeFile hremove).mono (isStaging_of_mem hm)
  directories _ _ _ _ := allowsDirectories_sparesFrom.making _
  stage := by
    rintro target hm tree bytes after hwrite rfl
    exact (spares_of_writeBytes hwrite).mono (isStaging_of_mem hm)

theorem confined_makeParent {places : Location → Prop} (target : Path) :
    Confined workDir places (makeParent target : StateM FileTree (Except DiskError Unit)) :=
  confined_iff.mpr (respects_makeParent fun _ _ => allowsDirectories_sparesFrom.making _)

/-- **Staging a draft spares all but the sibling of its target.** -/
theorem confined_stage (draft : Draft) :
    Confined workDir (· = aim workDir (stagingOf draft.1))
      (stage draft : StateM FileTree (Except DiskError Unit)) := by
  refine confined_iff.mpr
    (respects_stage (fun _ _ => allowsDirectories_sparesFrom.making _) ?_)
  rintro tree bytes after hwrite rfl
  exact spares_of_writeBytes hwrite

theorem holds_of_stage {draft : Draft} {tree after : FileTree}
    (h : (stage draft : StateM FileTree (Except DiskError Unit)) tree = (.ok (), after)) :
    after.Holds (stagingOf draft.1) draft.2 := by
  rw [stage] at h
  obtain ⟨made, middle, -, hthen⟩ := of_bind h
  cases made with
  | ok _ => exact holds_of_writeText hthen
  | error error => cases hthen

theorem confined_discard (targets : List Path) :
    Confined workDir (IsStaging workDir targets) (discard targets : StateM FileTree Unit) :=
  confined_iff.mpr (respects_discard (allowsStaging_sparesFrom targets).discard)

/-- **Staging drafts spares all but the siblings of their targets**, whether
it comes to its end or not. -/
theorem confined_stageAll (staged : List Path) (drafts : List Draft) :
    Confined workDir (IsStaging workDir (staged ++ drafts.map (·.1)))
      (stageAll staged drafts : StateM FileTree (Except DiskError Unit)) :=
  confined_iff.mpr (respects_stageAll (allowsStaging_sparesFrom _))

/-- A draft is staged and then those behind it, or the siblings made so far are
removed. -/
theorem stageAll_cases {staged : List Path} {draft : Draft} {drafts : List Draft}
    {tree after : FileTree} {result : Except DiskError Unit}
    (h : (stageAll staged (draft :: drafts) : StateM FileTree (Except DiskError Unit)) tree
      = (result, after)) :
    (∃ middle, (stage draft : StateM FileTree (Except DiskError Unit)) tree = (.ok (), middle)
        ∧ (stageAll (staged ++ [draft.1]) drafts : StateM FileTree (Except DiskError Unit)) middle
          = (result, after))
      ∨ ∃ error middle,
        (stage draft : StateM FileTree (Except DiskError Unit)) tree = (.error error, middle)
          ∧ (discard staged : StateM FileTree Unit) middle = ((), after)
          ∧ result = .error error := by
  rw [stageAll] at h
  obtain ⟨made, middle, hmade, hthen⟩ := of_bind h
  cases made with
  | ok _ => exact .inl ⟨middle, hmade, hthen⟩
  | error error =>
    obtain ⟨_, _, hdiscard, hlast⟩ := of_bind hthen
    obtain ⟨rfl, rfl⟩ := Prod.mk.inj hlast
    exact .inr ⟨error, middle, hmade, hdiscard, rfl⟩

/-- **Drafts that are staged are all there.** A sibling that is made stays
as it is, since those made later are others. -/
theorem of_stageAll {staged : List Path} {drafts : List Draft} {tree after : FileTree}
    (hapart : drafts.Pairwise fun a b => Apart tree.workDir a.1 b.1)
    (h : (stageAll staged drafts : StateM FileTree (Except DiskError Unit)) tree
      = (.ok (), after)) :
    Spares (IsStaging tree.workDir (drafts.map (·.1))) tree after
      ∧ ∀ draft ∈ drafts, after.Holds (stagingOf draft.1) draft.2 := by
  induction drafts generalizing staged tree with
  | nil =>
    obtain rfl := (Prod.mk.inj h).2
    exact ⟨.refl _ _, List.forall_mem_nil _⟩
  | cons draft drafts ih =>
    obtain ⟨hdraft, hdrafts⟩ := List.pairwise_cons.mp hapart
    rcases stageAll_cases h with ⟨middle, hmade, hthen⟩ | ⟨_, _, -, -, hfailed⟩
    · have hstage := (confined_stage draft).spares hmade
      obtain ⟨hspares, hholds⟩ := ih (hstage.workDir ▸ hdrafts) hthen
      rw [hstage.workDir] at hspares
      refine ⟨?_, List.forall_mem_cons.mpr ⟨(holds_of_stage hmade).of_spares hspares ?_, hholds⟩⟩
      · exact (hstage.mono (isStaging_of_mem List.mem_cons_self)).trans
          (hspares.mono (.of_subset (List.subset_cons_self _ _)))
      · rw [hstage.workDir]
        exact not_isStaging_stagingOf fun other ho => (hdraft other ho).target
    · cases hfailed

/-! ## Moving into place -/

/-- The places of hidden siblings, and of the targets of drafts that are in
place. -/
def IsTouched (workDir : Location) (drafts placed : List Draft) (location : Location) : Prop :=
  IsStaging workDir (drafts.map (·.1)) location
    ∨ ∃ draft ∈ placed, location = aim workDir draft.1

/-- A sibling is moved into place and then those behind it, or all that are left
are removed. -/
theorem placeAll_cases {target : Path} {targets : List Path} {tree after : FileTree}
    {result : Except DiskError Unit}
    (h : (placeAll (target :: targets) : StateM FileTree (Except DiskError Unit)) tree
      = (result, after)) :
    (∃ middle, (Disk.moveFile (stagingOf target) target
          : StateM FileTree (Except DiskError Unit)) tree = (.ok (), middle)
        ∧ (placeAll targets : StateM FileTree (Except DiskError Unit)) middle = (result, after))
      ∨ ∃ error, (Disk.moveFile (stagingOf target) target
          : StateM FileTree (Except DiskError Unit)) tree = (.error error, tree)
        ∧ (discard (target :: targets) : StateM FileTree Unit) tree = ((), after)
        ∧ result = .error error := by
  rw [placeAll] at h
  obtain ⟨moved, middle, hmoved, hthen⟩ := of_bind h
  cases moved with
  | ok _ => exact .inl ⟨middle, hmoved, hthen⟩
  | error error =>
    obtain rfl := of_change_error hmoved
    obtain ⟨_, _, hdiscard, hlast⟩ := of_bind hthen
    obtain ⟨rfl, rfl⟩ := Prod.mk.inj hlast
    exact .inr ⟨error, hmoved, hdiscard, rfl⟩

/-- **Moving into place goes up to a cut.** The drafts in front of it are in
place, and all but these and the hidden siblings is spared. It is behind the
last draft if nothing fails. -/
theorem exists_cut_of_placeAll {drafts : List Draft} {tree after : FileTree}
    {result : Except DiskError Unit}
    (hapart : drafts.Pairwise fun a b => Apart tree.workDir a.1 b.1)
    (hstaged : ∀ draft ∈ drafts, tree.Holds (stagingOf draft.1) draft.2)
    (h : (placeAll (drafts.map (·.1)) : StateM FileTree (Except DiskError Unit)) tree
      = (result, after)) :
    ∃ placed rest, drafts = placed ++ rest ∧ (rest = [] ↔ result = .ok ())
      ∧ (∀ draft ∈ placed, after.Holds draft.1 draft.2)
      ∧ Spares (IsTouched tree.workDir drafts placed) tree after := by
  induction drafts generalizing tree with
  | nil =>
    obtain ⟨hresult, rfl⟩ := Prod.mk.inj h
    exact ⟨[], [], rfl, iff_of_true rfl hresult.symm, List.forall_mem_nil _, .refl _ _⟩
  | cons draft drafts ih =>
    obtain ⟨hdraft, hdrafts⟩ := List.pairwise_cons.mp hapart
    obtain ⟨hfirst, hothers⟩ := List.forall_mem_cons.mp hstaged
    rw [List.map_cons] at h
    rcases placeAll_cases h with ⟨middle, hmoved, hthen⟩ | ⟨error, -, hdiscard, hresult⟩
    · have hmove := (confined_moveFile _ _).spares hmoved
      have hothers' : ∀ other ∈ drafts, middle.Holds (stagingOf other.1) other.2 := by
        intro other hm
        refine (hothers other hm).of_spares hmove ?_
        rintro (he | he)
        · exact (hdraft other hm).target (aim_eq_of_stagingOf he).symm
        · exact (hdraft other hm).left he.symm
      obtain ⟨placed, rest, rfl, hrest, hholds, hspares⟩ :=
        ih (hmove.workDir ▸ hdrafts) hothers' hthen
      rw [hmove.workDir] at hspares
      refine ⟨draft :: placed, rest, rfl, hrest, List.forall_mem_cons.mpr ⟨?_, hholds⟩,
        (hmove.mono ?_).trans (hspares.mono ?_)⟩
      · refine (hfirst.moved hmoved).of_spares hspares ?_
        rw [hmove.workDir]
        rintro (⟨target, hm, he⟩ | ⟨other, hm, he⟩)
        · obtain ⟨other, hother, rfl⟩ := List.mem_map.mp hm
          exact (hdraft other hother).left he
        · exact (hdraft other (List.mem_append_left _ hm)).target he
      · exact fun location => Or.imp (isStaging_of_mem List.mem_cons_self location)
          fun he => ⟨draft, List.mem_cons_self, he⟩
      · exact fun location => Or.imp (IsStaging.of_subset (List.subset_cons_self _ _) location)
          fun ⟨other, hm, he⟩ => ⟨other, List.mem_cons_of_mem _ hm, he⟩
    · have hspares := (confined_discard _).spares hdiscard
      exact ⟨[], draft :: drafts, rfl,
        iff_of_false (List.cons_ne_nil _ _) (hresult ▸ nofun),
        List.forall_mem_nil _, hspares.mono fun _ hplace => .inl hplace⟩

/-! ## Both together -/

/-- All drafts are staged and then moved into place, or staging fails. -/
theorem replaceAll_cases {drafts : List Draft} {tree after : FileTree}
    {result : Except DiskError Unit}
    (h : (replaceAll drafts : StateM FileTree (Except DiskError Unit)) tree = (result, after)) :
    (∃ middle, (stageAll [] drafts : StateM FileTree (Except DiskError Unit)) tree
          = (.ok (), middle)
        ∧ (placeAll (drafts.map (·.1)) : StateM FileTree (Except DiskError Unit)) middle
          = (result, after))
      ∨ ∃ error, (stageAll [] drafts : StateM FileTree (Except DiskError Unit)) tree
          = (.error error, after) ∧ result = .error error := by
  rw [replaceAll] at h
  obtain ⟨staged, middle, hstaged, hthen⟩ := of_bind h
  cases staged with
  | ok _ => exact .inl ⟨middle, hstaged, hthen⟩
  | error error =>
    obtain ⟨rfl, rfl⟩ := Prod.mk.inj hthen
    exact .inr ⟨error, hstaged, rfl⟩

/-- Where writing succeeds, and not for show, all was moved into place. -/
theorem exists_placeAll_of_writeOrPreview {drafts : List Draft} {tree after : FileTree}
    {outcome : Outcome}
    (h : (writeOrPreview drafts false : StateM FileTree (Except DiskError Outcome)) tree
      = (.ok outcome, after)) :
    ∃ middle, (placeAll (drafts.map (·.1)) : StateM FileTree (Except DiskError Unit)) middle
      = (.ok (), after) := by
  rw [writeOrPreview, if_neg Bool.false_ne_true] at h
  obtain ⟨replaced, last, hreplaced, hthen⟩ := of_bind h
  cases replaced with
  | error error => cases hthen
  | ok _ =>
    obtain rfl := (Prod.mk.inj hthen).2
    rcases replaceAll_cases hreplaced with ⟨middle, -, hplaced⟩ | ⟨_, -, hfailed⟩
    · exact ⟨middle, hplaced⟩
    · cases hfailed

/-- **Replacing goes up to a cut**, which is behind the last draft if nothing
fails. -/
theorem exists_cut_of_replaceAll {drafts : List Draft} {tree after : FileTree}
    {result : Except DiskError Unit}
    (hapart : drafts.Pairwise fun a b => Apart tree.workDir a.1 b.1)
    (h : (replaceAll drafts : StateM FileTree (Except DiskError Unit)) tree = (result, after)) :
    ∃ placed rest, drafts = placed ++ rest ∧ (rest = [] ↔ result = .ok ())
      ∧ (∀ draft ∈ placed, after.Holds draft.1 draft.2)
      ∧ Spares (IsTouched tree.workDir drafts placed) tree after := by
  rcases replaceAll_cases h with ⟨middle, hstaged, hthen⟩ | ⟨error, hstaged, hresult⟩
  · obtain ⟨hspares, hholds⟩ := of_stageAll hapart hstaged
    obtain ⟨placed, rest, hdrafts, hrest, hplaced, hspares'⟩ :=
      exists_cut_of_placeAll (hspares.workDir ▸ hapart) hholds hthen
    rw [hspares.workDir] at hspares'
    exact ⟨placed, rest, hdrafts, hrest, hplaced,
      (hspares.mono fun _ hplace => .inl hplace).trans hspares'⟩
  · have hspares := (confined_stageAll [] drafts).spares hstaged
    have hsome : drafts ≠ [] := by
      rintro rfl
      cases hstaged
    exact ⟨[], drafts, rfl, iff_of_false hsome (hresult ▸ nofun),
      List.forall_mem_nil _, hspares.mono fun _ hplace => .inl hplace⟩

/-- **What is left when replacing fails.** -/
theorem exists_placed_of_replaceAll {drafts : List Draft} {tree after : FileTree}
    {error : DiskError} (hapart : drafts.Pairwise fun a b => Apart tree.workDir a.1 b.1)
    (h : (replaceAll drafts : StateM FileTree (Except DiskError Unit)) tree
      = (.error error, after)) :
    ∃ placed rest, drafts = placed ++ rest ∧ rest ≠ []
      ∧ (∀ draft ∈ placed, after.Holds draft.1 draft.2)
      ∧ Spares (IsTouched tree.workDir drafts placed) tree after := by
  obtain ⟨placed, rest, hdrafts, hrest, hthen⟩ := exists_cut_of_replaceAll hapart h
  exact ⟨placed, rest, hdrafts, mt hrest.mp nofun, hthen⟩

/-- No target is among the hidden siblings. -/
theorem not_isStaging {drafts : List Draft}
    (hapart : drafts.Pairwise fun a b => Apart workDir a.1 b.1) {draft : Draft}
    (hm : draft ∈ drafts) : ¬ IsStaging workDir (drafts.map (·.1)) (aim workDir draft.1) := by
  rintro ⟨target, htarget, he⟩
  obtain ⟨other, hother, rfl⟩ := List.mem_map.mp htarget
  have hall : ∀ a ∈ drafts, ∀ b ∈ drafts, aim workDir a.1 ≠ aim workDir (stagingOf b.1) :=
    List.Pairwise.forall_of_forall_of_flip (fun a _ => (aim_stagingOf_ne workDir a.1).symm)
      (hapart.imp Apart.left) (hapart.imp Apart.right)
  exact hall draft hm other hother he

/-- What was refused was refused in replacing. -/
theorem of_writeOrPreview {drafts : List Draft} {dryRun : Bool} {tree after : FileTree}
    {error : DiskError}
    (h : (writeOrPreview drafts dryRun : StateM FileTree (Except DiskError Outcome)) tree
      = (.error error, after)) :
    (replaceAll drafts : StateM FileTree (Except DiskError Unit)) tree = (.error error, after) := by
  rw [writeOrPreview] at h
  split at h
  · cases h
  · obtain ⟨replaced, middle, hreplaced, hthen⟩ := of_bind h
    cases replaced with
    | ok _ => cases hthen
    | error error =>
      obtain ⟨herror, rfl⟩ := Prod.mk.inj hthen
      rw [hreplaced, Except.error.inj herror]

/-- **What is left when writing together fails.** There is a cut through the
drafts, not behind the last. All targets in front of it hold what they
should. All behind it are as they were, but that a directory may have been
made for another target where nothing was. -/
theorem exists_placed_of_writeAll {drafts : List Draft} {options : WriteOptions}
    {tree after : FileTree} {error : DiskError}
    (hapart : drafts.Pairwise fun a b => Apart tree.workDir a.1 b.1)
    (h : (writeAll drafts options : StateM FileTree (Except DiskError Outcome)) tree
      = (.error error, after)) :
    ∃ placed rest, drafts = placed ++ rest ∧ rest ≠ []
      ∧ (∀ draft ∈ placed, after.Holds draft.1 draft.2)
      ∧ ∀ draft ∈ rest, after.at? (aim tree.workDir draft.1) = tree.at? (aim tree.workDir draft.1)
        ∨ tree.at? (aim tree.workDir draft.1) = none
          ∧ after.at? (aim tree.workDir draft.1) = some .directory := by
  have hreplace : ∃ middle : FileTree, Spares (fun _ => False) tree middle
      ∧ (replaceAll drafts : StateM FileTree (Except DiskError Unit)) middle
        = (.error error, after) := by
    rw [writeAll] at h
    split at h
    · exact ⟨tree, .refl _ tree, of_writeOrPreview h⟩
    · obtain ⟨found, middle, hfound, hthen⟩ := of_bind h
      cases found with
      | some existing => cases hthen
      | none =>
        exact ⟨middle, (confined_iff.mpr (respects_firstThere? _)).spares hfound,
          of_writeOrPreview hthen⟩
  obtain ⟨middle, hmiddle, hreplaced⟩ := hreplace
  obtain ⟨placed, rest, rfl, hrest, hplaced, hspares⟩ :=
    exists_placed_of_replaceAll (hmiddle.workDir ▸ hapart) hreplaced
  rw [hmiddle.workDir] at hspares
  refine ⟨placed, rest, rfl, hrest, hplaced, fun draft hm => ?_⟩
  refine ((hmiddle.mono fun _ => False.elim).trans hspares).spared _ ?_
  rintro (hstaging | ⟨other, hother, he⟩)
  · exact not_isStaging hapart (List.mem_append_right _ hm) hstaging
  · exact ((List.pairwise_append.mp hapart).2.2 other hother draft hm).target he.symm

/-! ## A cut through the middle -/

/-- Two drafts that are to stand beside each other. -/
def twoDrafts : List Draft := [(⟨"out/one.js"⟩, "one"), (⟨"out/two.js"⟩, "two")]

/-- A tree with a directory in the way of the second. -/
def blockedTree : FileTree where
  entries := [(["keep", "two.js", "out"], .file "".toUTF8), (["two.js", "out"], .directory),
    (["out"], .directory)]
  workDir := []

/-- What staging makes of it. -/
def stagedTree : FileTree where
  entries := ([".two.js.tmp", "out"], .file "two".toUTF8)
    :: ([".one.js.tmp", "out"], .file "one".toUTF8) :: blockedTree.entries
  workDir := []

/-- What is left in the end. -/
def halfTree : FileTree where
  entries := (["one.js", "out"], .file "one".toUTF8) :: blockedTree.entries
  workDir := []

theorem apart_twoDrafts : twoDrafts.Pairwise fun a b => Apart blockedTree.workDir a.1 b.1 := by
  refine .cons (List.forall_mem_singleton.mpr ⟨?_, ?_, ?_⟩) (List.pairwise_singleton _ _)
  · decide
  · decide
  · decide

theorem writeAll_twoDrafts :
    (writeAll twoDrafts ⟨true, false⟩ : StateM FileTree (Except DiskError Outcome)) blockedTree
      = (.error .wrongKind, halfTree) := by
  have hstaged : (stageAll [] twoDrafts : StateM FileTree (Except DiskError Unit)) blockedTree
      = (.ok (), stagedTree) := by rfl
  have hplaced : (placeAll (twoDrafts.map (·.1)) : StateM FileTree (Except DiskError Unit))
      stagedTree = (.error .wrongKind, halfTree) := by rfl
  have hreplaced : (replaceAll twoDrafts : StateM FileTree (Except DiskError Unit)) blockedTree
      = (.error .wrongKind, halfTree) := (run_bind hstaged _).trans hplaced
  exact run_bind hreplaced _

theorem exists_placed_of_writeAll_twoDrafts :
    ∃ placed rest, twoDrafts = placed ++ rest ∧ rest ≠ []
      ∧ (∀ draft ∈ placed, halfTree.Holds draft.1 draft.2)
      ∧ ∀ draft ∈ rest, halfTree.at? (aim blockedTree.workDir draft.1)
          = blockedTree.at? (aim blockedTree.workDir draft.1)
        ∨ blockedTree.at? (aim blockedTree.workDir draft.1) = none
          ∧ halfTree.at? (aim blockedTree.workDir draft.1) = some .directory :=
  exists_placed_of_writeAll apart_twoDrafts writeAll_twoDrafts

/-- **Not all targets are spared where writing together fails**, though none
of them is, or is within, the hidden sibling of another. -/
theorem not_forall_spared_of_writeAll :
    ¬ ∀ (drafts : List Draft) (options : WriteOptions) (tree after : FileTree)
      (error : DiskError), (drafts.Pairwise fun a b => Apart tree.workDir a.1 b.1) →
      (∀ a ∈ drafts, ∀ b ∈ drafts,
        ¬ aim tree.workDir (stagingOf b.1) <:+ aim tree.workDir a.1) →
      (writeAll drafts options : StateM FileTree (Except DiskError Outcome)) tree
        = (.error error, after) →
      ∀ draft ∈ drafts,
        after.at? (aim tree.workDir draft.1) = tree.at? (aim tree.workDir draft.1) := by
  intro h
  have hone := h twoDrafts ⟨true, false⟩ blockedTree halfTree .wrongKind apart_twoDrafts
    (by decide) writeAll_twoDrafts _ List.mem_cons_self
  have haim : aim blockedTree.workDir ⟨"out/one.js"⟩ = ["one.js", "out"] := by decide
  rw [haim] at hone
  cases hone

end Output

end Playscript
