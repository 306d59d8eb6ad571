import Playscript.Proofs.Output.Room

/-!
# What comes of writing together

Writing together ends in one of four ways, and what it leaves is told for each
(`Output.isOutcome_writeAll`): a target that is there is named, or all targets are
named, and nothing was changed; or all of them are written, and nothing else was
changed but that directories lead to them and their hidden siblings are gone; or
it fails.

However it ends, hidden siblings should be cleared away. Where a write fails for
want of room, one is not: the sibling it was to write is made by then, and only
those of the drafts before it are removed (`Output.not_forall_cleared_of_writeAll`).
That is the only file that is left, and it is left in no other case.

With all the room there could be, there is still one thing at the place of a
sibling that is not cleared away: a directory that was made on the way to a target.
A path such as `.b.tmp/../b` leads there and back
(`Output.not_forall_cleared_with_room`).
-/

namespace Playscript

namespace Output

open FileTree Volume

variable {tree after : FileTree} {location : Location} {drafts : List Draft}
  {options : WriteOptions}

/-! ## Drafts that are written -/

/-- **Where writing succeeds, nothing else was changed**, but that siblings are gone
and directories lead to targets. -/
theorem frame_of_replaceAll (hapart : drafts.Pairwise fun a b => Apart tree.workDir a.1 b.1)
    (hleads : OnlyLeads (drafts.map (·.1)) tree after)
    (h : (replaceAll drafts : StateM FileTree (Except DiskError Unit)) tree = (.ok (), after))
    (hout : ∀ draft ∈ drafts, location ≠ aim tree.workDir draft.1) :
    after.at? location = tree.at? location
      ∨ IsStaging tree.workDir (drafts.map (·.1)) location ∧ after.at? location = none
      ∨ IsMade (drafts.map (·.1)) tree after location := by
  obtain ⟨placed, rest, rfl, -, -, hspares⟩ := exists_cut_of_replaceAll hapart h
  by_cases hstaging : IsStaging tree.workDir ((placed ++ rest).map (·.1)) location
  · refine .inr (.inl ⟨hstaging, ?_⟩)
    obtain ⟨target, hm, rfl⟩ := hstaging
    obtain ⟨draft, hdraft, rfl⟩ := List.mem_map.mp hm
    exact (tidied_of_replaceAll hapart h draft hdraft).2 rfl
  · have htouched : ¬ IsTouched tree.workDir (placed ++ rest) placed location :=
      not_or.mpr ⟨hstaging, fun ⟨draft, hm, he⟩ => hout draft (List.mem_append_left _ hm) he⟩
    exact (hspares.spared location htouched).imp_right fun ⟨hnone, hdirectory⟩ =>
      .inr (hleads.isMade hnone hdirectory)

theorem find?_of_replaceAll (hapart : drafts.Pairwise fun a b => Apart tree.workDir a.1 b.1)
    (h : (replaceAll drafts : StateM FileTree (Except DiskError Unit)) tree = (.ok (), after)) :
    ∀ draft ∈ drafts, after.find? draft.1 = some (.file draft.2.toUTF8) := by
  obtain ⟨placed, rest, rfl, hrest, hholds, -⟩ := exists_cut_of_replaceAll hapart h
  obtain rfl := hrest.mpr rfl
  rw [List.append_nil] at h ⊢
  have hwrite : (writeAll placed ⟨true, false⟩ : StateM FileTree (Except DiskError Outcome)) tree
      = (.ok (.written (placed.map (·.1))), after) := writeOrPreview_false placed h
  intro draft hm
  obtain ⟨location, hlocate⟩ := exists_locate_of_writeAll hwrite draft.1
    (List.mem_map_of_mem hm)
  rw [find?_of_locate hlocate]
  exact hholds draft hm

/-! ## The four ways -/

variable {volume last : Volume}

/-- Without force, what is found first decides. -/
theorem writeAll_of_found {front back : List Path} {existing : Path}
    (hforce : options.force = false) (htargets : drafts.map (·.1) = front ++ existing :: back)
    (hfront : ∀ target ∈ front, volume.tree.find? target = none)
    (hsome : (volume.tree.find? existing).isSome) :
    (writeAll drafts options : StateM Volume (Except DiskError Outcome)) volume
      = (.ok (.skipped existing), volume) := by
  have hfound : (drafts.map (·.1)).find? (fun path => (volume.tree.find? path).isSome)
      = some existing := by
    refine List.find?_eq_some_iff_append.mpr ⟨hsome, front, back, htargets, fun target hm => ?_⟩
    rw [hfront target hm]
    rfl
  rw [writeAll_of_firstThere? (firstThere?_eq_of_volume _ volume), hforce,
    if_neg Bool.false_ne_true, hfound]

/-- Where nothing is found, or with force, drafts are written or shown. -/
theorem writeAll_of_free
    (hfree : options.force = true ∨ ∀ draft ∈ drafts, volume.tree.find? draft.1 = none) :
    (writeAll drafts options : StateM Volume (Except DiskError Outcome)) volume
      = (writeOrPreview drafts options.dryRun : StateM Volume (Except DiskError Outcome))
        volume := by
  rw [writeAll_of_firstThere? (firstThere?_eq_of_volume _ volume)]
  split
  · next existing hfound =>
    rcases hfree with hforce | hnone
    · rw [hforce, if_pos rfl] at hfound
      cases hfound
    · split at hfound
      · cases hfound
      · obtain ⟨draft, hm, rfl⟩ := List.mem_map.mp (List.mem_of_find?_eq_some hfound)
        have hsome := List.find?_some hfound
        rw [hnone draft hm] at hsome
        cases hsome
  · rfl

/-- **What may be at the place of a hidden sibling in the end**, if it was cleared
away: nothing, or what was there, or a directory that was made on the way to a
target. -/
def IsCleared (targets : List Path) (before after : FileTree) (location : Location) : Prop :=
  after.at? location = none ∨ after.at? location = before.at? location
    ∨ IsMade targets before after location

theorem IsTidied.isCleared {targets : List Path} {before : FileTree}
    (h : IsTidied before after location) (hleads : OnlyLeads targets before after) :
    IsCleared targets before after location :=
  h.imp_right (Or.imp_right fun ⟨hnone, hdirectory⟩ => hleads.isMade hnone hdirectory)

/-- **What comes of writing drafts together**: what is answered, and what is left. -/
structure IsOutcome (drafts : List Draft) (options : WriteOptions) (volume : Volume)
    (result : Except DiskError Outcome) (last : Volume) : Prop where
  /-- Without force the first target that is there is named, and nothing changes. -/
  skipped : ∀ front existing back, options.force = false →
    drafts.map (·.1) = front ++ existing :: back →
    (∀ target ∈ front, volume.tree.find? target = none) →
    (volume.tree.find? existing).isSome →
    result = .ok (.skipped existing) ∧ last = volume
  /-- Otherwise a dry run names all targets, and nothing changes. -/
  previewed : (options.force = true ∨ ∀ draft ∈ drafts, volume.tree.find? draft.1 = none) →
    options.dryRun = true → result = .ok (.preview (drafts.map (·.1))) ∧ last = volume
  /-- Otherwise they are written, unless that fails. Each target then holds what it
  should, and whatever is elsewhere is as it was, but for hidden siblings that are gone
  and directories that were made on the way. -/
  written : (options.force = true ∨ ∀ draft ∈ drafts, volume.tree.find? draft.1 = none) →
    options.dryRun = false → (∃ error, result = .error error)
      ∨ result = .ok (.written (drafts.map (·.1)))
        ∧ (∀ draft ∈ drafts, last.tree.find? draft.1 = some (.file draft.2.toUTF8))
        ∧ ∀ location, (∀ draft ∈ drafts, location ≠ aim volume.tree.workDir draft.1) →
          last.tree.at? location = volume.tree.at? location
            ∨ IsStaging volume.tree.workDir (drafts.map (·.1)) location
              ∧ last.tree.at? location = none
            ∨ IsMade (drafts.map (·.1)) volume.tree last.tree location
  /-- Paths lead from the same directory. -/
  workDir : last.tree.workDir = volume.tree.workDir
  /-- However it ends, hidden siblings are cleared away, unless there was too little
  room for a draft. Then its sibling holds the beginning of its text, and the others
  are cleared away. -/
  cleared : (∀ draft ∈ drafts, IsCleared (drafts.map (·.1)) volume.tree last.tree
        (aim volume.tree.workDir (stagingOf draft.1)))
    ∨ result = .error .full
      ∧ ∃ front draft back, drafts = front ++ draft :: back
        ∧ last.tree.HoldsPart (stagingOf draft.1) draft.2
        ∧ ∀ other ∈ front ++ back, IsCleared (drafts.map (·.1)) volume.tree last.tree
          (aim volume.tree.workDir (stagingOf other.1))

/-- **What comes of writing drafts together.** The targets lead to different places,
and none of them to the hidden sibling of another. -/
theorem isOutcome_writeAll (options : WriteOptions)
    (hapart : drafts.Pairwise fun a b => Apart volume.tree.workDir a.1 b.1) :
    IsOutcome drafts options volume
      ((writeAll drafts options : StateM Volume (Except DiskError Outcome)) volume).1
      ((writeAll drafts options : StateM Volume (Except DiskError Outcome)) volume).2 := by
  obtain ⟨result, last, h⟩ : ∃ result last,
      (writeAll drafts options : StateM Volume (Except DiskError Outcome)) volume
        = (result, last) := ⟨_, _, rfl⟩
  have hleads : OnlyLeads (drafts.map (·.1)) volume.tree last.tree := by
    rcases writeAll_cases_of_volume h with hwrite | ⟨-, hshort⟩
    · exact (respects_writeAll drafts (allows_onlyLeads _) options).of_run hwrite
    · exact hshort.respects (allows_onlyLeads _).staging
  rw [h]
  refine ⟨?_, ?_, ?_, hleads.workDir, ?_⟩
  · intro front existing back hforce htargets hfront hsome
    rw [writeAll_of_found hforce htargets hfront hsome] at h
    obtain ⟨rfl, rfl⟩ := Prod.mk.inj h
    exact ⟨rfl, rfl⟩
  · intro hfree hdry
    rw [writeAll_of_free hfree, hdry] at h
    obtain ⟨rfl, rfl⟩ := Prod.mk.inj h
    exact ⟨rfl, rfl⟩
  · intro hfree hdry
    obtain ⟨replaced, after, hreplaced⟩ : ∃ replaced after,
        (replaceAll drafts : StateM Volume (Except DiskError Unit)) volume
          = (replaced, after) := ⟨_, _, rfl⟩
    rw [writeAll_of_free hfree, hdry, writeOrPreview_false drafts hreplaced] at h
    obtain ⟨rfl, rfl⟩ := Prod.mk.inj h
    cases replaced with
    | error error => exact .inl ⟨error, rfl⟩
    | ok _ =>
      have hreplace := (replaceAll_cases_of_volume hreplaced).resolve_right fun hshort => by
        cases hshort.1
      exact .inr ⟨rfl, find?_of_replaceAll hapart hreplace, fun _ =>
        frame_of_replaceAll hapart hleads hreplace⟩
  · rcases writeAll_cases_of_volume h with hwrite | ⟨hfull, hshort⟩
    · exact .inl fun draft hm => (tidied_of_writeAll hapart hwrite draft hm).isCleared hleads
    · obtain ⟨front, draft, back, hdrafts, hpart, htidied⟩ := hshort.left hapart
      exact .inr ⟨hfull, front, draft, back, hdrafts, hpart, fun other ho =>
        (htidied other ho).isCleared hleads⟩

/-! ## A file in the place of a sibling -/

/-- A volume with room for the first of two drafts, and for one byte of the second. -/
def crampedVolume : Volume where
  tree := ⟨[], []⟩
  rooms := [3, 1]

/-- The volume when the first draft is staged. -/
def crampedFirst : Volume where
  tree := ⟨[([".one.js.tmp", "out"], .file "one".toUTF8), (["out"], .directory)], []⟩
  rooms := [1]

/-- The volume when there was too little room for the second. -/
def crampedSecond : Volume where
  tree := ⟨([".two.js.tmp", "out"], .file "t".toUTF8) :: crampedFirst.tree.entries, []⟩
  rooms := []

/-- What is left in the end. -/
def crampedLast : Volume where
  tree := ⟨[([".two.js.tmp", "out"], .file "t".toUTF8), (["out"], .directory)], []⟩
  rooms := []

theorem writeAll_cramped :
    (writeAll twoDrafts ⟨true, false⟩ : StateM Volume (Except DiskError Outcome)) crampedVolume
      = (.error .full, crampedLast) := by
  have hfirst : (stage (⟨"out/one.js"⟩, "one") : StateM Volume (Except DiskError Unit))
      crampedVolume = (.ok (), crampedFirst) := by rfl
  have hsecond : (stage (⟨"out/two.js"⟩, "two") : StateM Volume (Except DiskError Unit))
      crampedFirst = (.error .full, crampedSecond) := by rfl
  have hdiscard : (discard [⟨"out/one.js"⟩] : StateM Volume Unit) crampedSecond
      = ((), crampedLast) := by rfl
  have hstaged : (stageAll [] twoDrafts : StateM Volume (Except DiskError Unit)) crampedVolume
      = (.error .full, crampedLast) :=
    (run_bind hfirst _).trans ((run_bind hsecond _).trans (run_bind hdiscard _))
  exact writeOrPreview_false twoDrafts (run_bind hstaged _)

theorem isOutcome_writeAll_cramped :
    IsOutcome twoDrafts ⟨true, false⟩ crampedVolume (.error .full) crampedLast := by
  have hapart : twoDrafts.Pairwise fun a b => Apart crampedVolume.tree.workDir a.1 b.1 :=
    apart_twoDrafts
  have h := isOutcome_writeAll ⟨true, false⟩ hapart
  rwa [writeAll_cramped] at h

/-- **A hidden sibling may be left where nothing was**, though no target is, or is
within, the hidden sibling of another. -/
theorem not_forall_cleared_of_writeAll :
    ¬ ∀ (drafts : List Draft) (options : WriteOptions) (volume : Volume),
      (drafts.Pairwise fun a b => Apart volume.tree.workDir a.1 b.1) →
      (∀ a ∈ drafts, ∀ b ∈ drafts,
        ¬ aim volume.tree.workDir (stagingOf b.1) <:+ aim volume.tree.workDir a.1) →
      ∀ draft ∈ drafts,
        volume.tree.at? (aim volume.tree.workDir (stagingOf draft.1)) = none →
        ((writeAll drafts options : StateM Volume (Except DiskError Outcome)) volume).2.tree.at?
          (aim volume.tree.workDir (stagingOf draft.1)) = none := by
  intro h
  have hgone := h twoDrafts ⟨true, false⟩ crampedVolume apart_twoDrafts (by decide) _
    (List.mem_cons_of_mem _ List.mem_cons_self)
  have haim : aim crampedVolume.tree.workDir (stagingOf ⟨"out/two.js"⟩)
      = [".two.js.tmp", "out"] := by decide
  rw [writeAll_cramped, haim] at hgone
  cases hgone rfl

/-! ## A directory in the place of a sibling -/

/-- A draft whose path leads to the place of its hidden sibling, and back. -/
def roundabout : Draft := (⟨".b.tmp/../b"⟩, "b")

/-- What is left of it: the way there. -/
def roundaboutTree : FileTree where
  entries := [([".b.tmp"], .directory)]
  workDir := []

theorem writeAll_roundabout :
    (writeAll [roundabout] ⟨true, false⟩ : StateM FileTree (Except DiskError Outcome)) ⟨[], []⟩
      = (.error .wrongKind, roundaboutTree) := by
  have hreplaced : (replaceAll [roundabout] : StateM FileTree (Except DiskError Unit)) ⟨[], []⟩
      = (.error .wrongKind, roundaboutTree) := by rfl
  exact writeOrPreview_false [roundabout] hreplaced

/-- **Something may be left in the place of a hidden sibling where nothing was**,
though there is room for all, and no target is, or is within, the hidden sibling of
another. -/
theorem not_forall_cleared_with_room :
    ¬ ∀ (drafts : List Draft) (options : WriteOptions) (tree : FileTree),
      (drafts.Pairwise fun a b => Apart tree.workDir a.1 b.1) →
      (∀ a ∈ drafts, ∀ b ∈ drafts,
        ¬ aim tree.workDir (stagingOf b.1) <:+ aim tree.workDir a.1) →
      ∀ draft ∈ drafts, tree.at? (aim tree.workDir (stagingOf draft.1)) = none →
        ((writeAll drafts options : StateM FileTree (Except DiskError Outcome)) tree).2.at?
          (aim tree.workDir (stagingOf draft.1)) = none := by
  intro h
  have hgone := h [roundabout] ⟨true, false⟩ ⟨[], []⟩ (List.pairwise_singleton _ _) (by decide)
    roundabout List.mem_cons_self
  have haim : aim [] (stagingOf roundabout.1) = [".b.tmp"] := by decide
  rw [writeAll_roundabout, haim] at hgone
  cases hgone rfl

end Output

end Playscript
