import Mathlib.Data.List.Induction
import Mathlib.Data.List.Nodup
import Playscript.Proofs.FirstOccurrences
import Playscript.Proofs.Path.Names
import Playscript.Watch.Watcher

/-!
# What a batch keeps of the changes

A batch names every file once. What it says of a file is what the last
change of that file said; all that happened to it before is gone. So a
file is processed again exactly when its *last* change asks for that
(`exists_mem_inputsToRerun_iff`).

This is less than it seems to be. A file that is written is told of twice,
first that its contents are others and then that it was closed. The second
change is of no kind that asks for anything, it is the last one, and the
first is forgotten: the batch names the file, and nobody processes it
(`not_forall_mem_inputsToRerun`). Only where nothing but a change of the
asking kinds comes last does an edit get through.

Both halves are statements about `Change.merge`, which puts one change into
a list, followed through all changes of a batch.
-/

namespace Playscript

namespace Change

/-! ## The last change of a file -/

/-- **The kind of the last change of a file**, if it was changed at all. -/
def lastKind? (changes : List Change) (path : Path) : Option ChangeKind :=
  (changes.reverse.find? (·.path.same path)).map (·.kind)

/-- A further change is the last one of its file and of no other. -/
theorem lastKind?_concat (changes : List Change) (change : Change) (path : Path) :
    lastKind? (changes ++ [change]) path
      = if change.path.same path then some change.kind else lastKind? changes path := by
  rw [lastKind?, List.reverse_append, List.reverse_singleton, List.singleton_append,
    List.find?_cons]
  cases change.path.same path <;> rfl

/-- Putting a change into a list gives its kind to its file and leaves the
other files alone. -/
theorem find?_merge (change : Change) (done : List Change) (path : Path) :
    ((merge change done).find? (·.path.same path)).map (·.kind)
      = if change.path.same path then some change.kind
        else (done.find? (·.path.same path)).map (·.kind) := by
  induction done with
  | nil =>
    rw [merge, List.find?_cons]
    cases change.path.same path <;> rfl
  | cons first rest ih =>
    rw [merge]
    split
    · next hsame =>
      -- the place of the file is found by its first name, which says the same
      rw [List.find?_cons, List.find?_cons]
      show Option.map _ (match first.path.same path with
        | true => some { first with kind := change.kind }
        | false => rest.find? (·.path.same path)) = _
      rw [Path.same_congr hsame]
      cases change.path.same path <;> rfl
    · next hother =>
      rw [List.find?_cons, List.find?_cons]
      cases hfirst : first.path.same path with
      | false => exact ih
      | true =>
        have hchange : change.path.same path = false := by
          rw [← Bool.not_eq_true]
          intro h
          exact hother (Path.same_iff.mpr
            ((Path.same_iff.mp hfirst).trans (Path.same_iff.mp h).symm))
        rw [hchange]
        rfl

/-- A further change is put into what was made of the others. -/
theorem merged_concat (changes : List Change) (change : Change) :
    merged (changes ++ [change]) = merge change (merged changes) := by
  rw [merged, List.foldl_append]
  rfl

/-- **What is kept of a file is its last change.** -/
theorem find?_merged (changes : List Change) (path : Path) :
    ((merged changes).find? (·.path.same path)).map (·.kind) = lastKind? changes path := by
  induction changes using List.reverseRecOn with
  | nil => rfl
  | append_singleton changes change ih =>
    rw [merged_concat, find?_merge, lastKind?_concat, ih]

/-! ## One change for each file -/

/-- A change adds its file to those that are named, unless it is there. -/
theorem components_merge (change : Change) (done : List Change) :
    (merge change done).map (·.path.components)
      = if change.path.components ∈ done.map (·.path.components)
        then done.map (·.path.components)
        else done.map (·.path.components) ++ [change.path.components] := by
  induction done with
  | nil => rfl
  | cons first rest ih =>
    rw [merge]
    by_cases hsame : first.path.same change.path = true
    · rw [if_pos hsame, if_pos]
      · rfl
      · rw [← Path.same_iff.mp hsame]
        exact List.mem_map_of_mem List.mem_cons_self
    · have hne : change.path.components ≠ first.path.components := fun h =>
        hsame (Path.same_iff.mpr h.symm)
      rw [if_neg hsame, List.map_cons, List.map_cons, ih]
      by_cases hm : change.path.components ∈ rest.map (·.path.components)
      · rw [if_pos hm, if_pos (List.mem_cons_of_mem _ hm)]
      · rw [if_neg hm, if_neg fun h => (List.mem_cons.mp h).elim hne hm]
        rfl

/-- **The files of a batch are the first occurrences of the files that were
changed.** -/
theorem components_merged (changes : List Change) :
    (merged changes).map (·.path.components)
      = (changes.map (·.path.components)).eraseDups := by
  induction changes using List.reverseRecOn with
  | nil => rfl
  | append_singleton changes change ih =>
    rw [merged_concat, components_merge, ih, List.map_append, List.map_singleton,
      eraseDups_concat]
    simp only [List.mem_eraseDups, List.elem_eq_mem, decide_eq_true_eq]

/-- No two changes of a batch are of one file. -/
theorem eq_of_mem_merged {changes : List Change} {a b : Change} (ha : a ∈ merged changes)
    (hb : b ∈ merged changes) (h : a.path.same b.path = true) : a = b := by
  have hnodup : ((merged changes).map (·.path.components)).Nodup := by
    rw [components_merged]
    exact (isFirstOccurrences_eraseDups _).nodup
  exact List.inj_on_of_nodup_map hnodup ha hb (Path.same_iff.mp h)

/-- **A batch has a change of some kind for a file exactly when that is the
kind of the last change of the file.** -/
theorem exists_mem_merged_iff (changes : List Change) (path : Path) (kind : ChangeKind) :
    (∃ change ∈ merged changes, change.path.same path = true ∧ change.kind = kind)
      ↔ lastKind? changes path = some kind := by
  rw [← find?_merged, Option.map_eq_some_iff]
  constructor
  · rintro ⟨change, hm, hsame, rfl⟩
    cases hfound : (merged changes).find? (·.path.same path) with
    | none => exact absurd hsame (List.find?_eq_none.mp hfound change hm)
    | some found =>
      have hfirst := List.find?_some hfound
      refine ⟨found, rfl, congrArg Change.kind ?_⟩
      refine eq_of_mem_merged (List.mem_of_find?_eq_some hfound) hm ?_
      exact Path.same_iff.mpr ((Path.same_iff.mp hfirst).trans (Path.same_iff.mp hsame).symm)
  · rintro ⟨change, hfound, rfl⟩
    have hsame := List.find?_some hfound
    exact ⟨change, List.mem_of_find?_eq_some hfound, hsame, rfl⟩

theorem mem_inputsToRerun_iff {batch : List Change} {path : Path} :
    path ∈ inputsToRerun batch
      ↔ ∃ change ∈ batch, change.kind.wantsRerun = true ∧ change.path = path := by
  simp only [inputsToRerun, List.mem_map, List.mem_filter, and_assoc]

end Change

namespace Watcher

/-! ## Batches of a watcher -/

/-- **A batch is made of all changes that were collected.** -/
theorem eq_merged_of_check {watcher after : Watcher} {now : Nat} {batch : List Change}
    (h : watcher.check now = (some batch, after)) :
    watcher.collect.pending ≠ [] ∧ batch = Change.merged watcher.collect.pending := by
  unfold check at h
  split at h
  · unfold release at h
    split at h
    · next hdue =>
      cases h
      exact ⟨hdue.1, rfl⟩
    · cases h
  · cases h

/-- **A file is processed again exactly when the last of its collected
changes says that it is new or another.** -/
theorem exists_mem_inputsToRerun_iff {watcher after : Watcher} {now : Nat} {batch : List Change}
    (h : watcher.check now = (some batch, after)) (path : Path) :
    (∃ input ∈ Change.inputsToRerun batch, input.same path = true)
      ↔ ∃ kind, Change.lastKind? watcher.collect.pending path = some kind
        ∧ kind.wantsRerun = true := by
  obtain ⟨-, rfl⟩ := eq_merged_of_check h
  constructor
  · rintro ⟨input, hinput, hsame⟩
    obtain ⟨change, hm, hwants, rfl⟩ := Change.mem_inputsToRerun_iff.mp hinput
    exact ⟨change.kind, (Change.exists_mem_merged_iff _ path _).mp ⟨change, hm, hsame, rfl⟩, hwants⟩
  · rintro ⟨kind, hlast, hwants⟩
    obtain ⟨change, hm, hsame, rfl⟩ := (Change.exists_mem_merged_iff _ path kind).mpr hlast
    exact ⟨change.path, Change.mem_inputsToRerun_iff.mpr ⟨change, hm, hwants, rfl⟩, hsame⟩

/-- A watcher of features that has been told of some changes. -/
def told (changes : List Change) : Watcher :=
  ⟨⟨⟨"in"⟩, ".feature", WatchTarget.customaryDebounce⟩, some changes, [], none⟩

/-- The watcher after it has handed out what it was told. -/
def toldAndAsked : Watcher := { told [] with lastBatch := some 0 }

/-- A file that is removed and made anew is processed again, also when
another one is closed in between. -/
theorem mem_inputsToRerun_of_recreated :
    (told [⟨⟨"in/a.feature"⟩, .modified⟩, ⟨⟨"in/a.feature"⟩, .deleted⟩,
        ⟨⟨"in/b.feature"⟩, .other⟩, ⟨⟨"in/a.feature"⟩, .created⟩]).check 0
      = (some [⟨⟨"in/a.feature"⟩, .created⟩, ⟨⟨"in/b.feature"⟩, .other⟩], toldAndAsked)
    ∧ ∃ input ∈ Change.inputsToRerun [⟨⟨"in/a.feature"⟩, .created⟩, ⟨⟨"in/b.feature"⟩, .other⟩],
      input.same ⟨"in/a.feature"⟩ = true := by
  have hcheck : (told [⟨⟨"in/a.feature"⟩, .modified⟩, ⟨⟨"in/a.feature"⟩, .deleted⟩,
        ⟨⟨"in/b.feature"⟩, .other⟩, ⟨⟨"in/a.feature"⟩, .created⟩]).check 0
      = (some [⟨⟨"in/a.feature"⟩, .created⟩, ⟨⟨"in/b.feature"⟩, .other⟩], toldAndAsked) := by
    decide
  exact ⟨hcheck, (exists_mem_inputsToRerun_iff hcheck _).mpr ⟨.created, by decide, rfl⟩⟩

/-- **An edit may be lost.** A file that is written is told of as another
one and then as closed, and is not processed again, though it was not
removed. -/
theorem not_forall_mem_inputsToRerun :
    ¬ ∀ (watcher after : Watcher) (now : Nat) (batch : List Change),
      watcher.check now = (some batch, after) →
      ∀ (before : List Change) (change : Change) (behind : List Change),
        watcher.collect.pending = before ++ change :: behind →
        change.kind.wantsRerun = true →
        (∀ later ∈ behind, later.path.same change.path = true → later.kind ≠ .deleted) →
        ∃ input ∈ Change.inputsToRerun batch, input.same change.path = true := by
  intro h
  have hcheck : (told [⟨⟨"in/a.feature"⟩, .modified⟩, ⟨⟨"in/a.feature"⟩, .other⟩]).check 0
      = (some [⟨⟨"in/a.feature"⟩, .other⟩], toldAndAsked) := by decide
  obtain ⟨input, hinput, -⟩ := h _ _ _ _ hcheck [] ⟨⟨"in/a.feature"⟩, .modified⟩
    [⟨⟨"in/a.feature"⟩, .other⟩] (by decide) rfl (by decide)
  -- the batch asks for nothing
  exact List.not_mem_nil hinput

end Watcher

end Playscript
