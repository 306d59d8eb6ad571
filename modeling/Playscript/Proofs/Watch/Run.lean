import Playscript.Proofs.Watch.Batch
import Playscript.Watch.Run

/-!
# What a run of a watcher keeps

Whatever happens to a watcher, and in whatever order, no change that was
drained from the system gets lost or is handed out twice. The drained changes
fall into segments, one behind each batch in order, and the changes that are
still pending (`Watcher.run_keeps_changes`). A batch is its segment with one
change for each file.

What was drained is said without the watcher (`Happening.drained`), from
what happened alone: a telling lies in the queue until the next check that
finds the watcher running, and a stop or a start that succeeds throws away
what lies there. So the statement also says which changes are lost, and that
these are the only ones.

Two things carry the induction along a run. The queue of the watcher is the
one that is told from what happened (`Watcher.queue_step`), and each single
happening keeps the sum of what is pending and what is handed out
(`Watcher.conserves_step`). The times of batches are a matter of their own:
the time of the last one, which a watcher remembers, is put in front of the
times that are to come.
-/

namespace Playscript

namespace Change

/-! ## What a batch is to its segment -/

/-- **The first name of a file** among changes, as it was written there. -/
def firstPath? (changes : List Change) (path : Path) : Option Path :=
  (changes.find? (·.path.same path)).map (·.path)

/-- **A batch sums up a segment of changes**: it names every file of the
segment once, in the order in which they were first named and as it was
written then, with the kind of the last change of the file. -/
structure SumsUp (batch segment : List Change) : Prop where
  /-- There is something in it. -/
  ne_nil : batch ≠ []
  /-- Its files are the first occurrences of those of the segment. -/
  files : IsFirstOccurrences (segment.map (·.path.components)) (batch.map (·.path.components))
  /-- They are written as they were first. -/
  paths : ∀ change ∈ batch, firstPath? segment change.path = some change.path
  /-- The kinds are those of the last changes. -/
  kinds : ∀ change ∈ batch, lastKind? segment change.path = some change.kind

/-- Putting a change into a list names no file anew that is there. -/
theorem firstPath?_merge (change : Change) (done : List Change) (path : Path) :
    firstPath? (merge change done) path = firstPath? (done ++ [change]) path := by
  induction done with
  | nil => rfl
  | cons first rest ih =>
    rw [merge]
    split
    · next hsame =>
      rw [firstPath?, firstPath?, List.cons_append, List.find?_cons, List.find?_cons,
        List.find?_append, List.find?_singleton]
      cases hfirst : first.path.same path with
      | true => rfl
      | false =>
        -- the change is of the first file, so it is not of the one that is looked for
        rw [Path.same_congr hsame] at hfirst
        rw [hfirst]
        simp
    · rw [firstPath?, firstPath?, List.cons_append, List.find?_cons, List.find?_cons]
      cases first.path.same path with
      | true => rfl
      | false => exact ih

/-- **The first name of a file is kept.** -/
theorem firstPath?_merged (changes : List Change) (path : Path) :
    firstPath? (merged changes) path = firstPath? changes path := by
  induction changes using List.reverseRecOn with
  | nil => rfl
  | append_singleton changes change ih =>
    rw [merged_concat, firstPath?_merge]
    unfold firstPath? at ih ⊢
    rw [List.find?_append, List.find?_append, Option.map_or, Option.map_or, ih]

/-- **What is made of changes sums them up**, if there are any. -/
theorem sumsUp_merged {segment : List Change} (h : segment ≠ []) :
    SumsUp (merged segment) segment := by
  have hfiles : IsFirstOccurrences (segment.map (·.path.components))
      ((merged segment).map (·.path.components)) := by
    rw [components_merged]
    exact isFirstOccurrences_eraseDups _
  have hself : ∀ change : Change, change.path.same change.path = true :=
    fun change => Path.same_iff.mpr rfl
  refine ⟨fun hnil => ?_, hfiles, fun change hm => ?_, fun change hm => ?_⟩
  · obtain ⟨change, rest, rfl⟩ := List.exists_cons_of_ne_nil h
    have hm := (hfiles.mem_iff change.path.components).mpr List.mem_cons_self
    rw [hnil] at hm
    exact List.not_mem_nil hm
  · rw [← firstPath?_merged, firstPath?, Option.map_eq_some_iff]
    cases hfound : (merged segment).find? (·.path.same change.path) with
    | none => exact absurd (hself change) (List.find?_eq_none.mp hfound change hm)
    | some found =>
      refine ⟨found, rfl, congrArg Change.path ?_⟩
      exact eq_of_mem_merged (List.mem_of_find?_eq_some hfound) hm
        (by simpa using List.find?_some hfound)
  · exact (exists_mem_merged_iff segment change.path change.kind).mp ⟨change, hm, hself change, rfl⟩

end Change

namespace Happening

/-! ## What is drained -/

/-- What lies in the queue after something happened; nothing when nobody
listens. -/
def queueAfter : Happening → Option (List Change) → Option (List Change)
  | .start true .granted, _ => some []
  | .start _ _, queue => queue
  | .stop, _ => none
  | .told telling, queue => queue.map (· ++ telling.changes)
  | .check _, queue => queue.map fun _ => []

/-- The changes of inputs that are drained when something happens: all that
lie in the queue, when it is a check. -/
def drainedBy (target : WatchTarget) : Happening → Option (List Change) → List Change
  | .check _, some changes => changes.filter (target.admits ·.path)
  | _, _ => []

/-- **The changes of inputs that are drained in a run**, in the order in
which the system told of them, given what lies in the queue. -/
def drained (target : WatchTarget) : Option (List Change) → List Happening → List Change
  | _, [] => []
  | queue, happening :: rest =>
    happening.drainedBy target queue ++ drained target (happening.queueAfter queue) rest

/-- The times at which batches are asked for. -/
def checkTimes (happenings : List Happening) : List Nat :=
  happenings.filterMap fun
    | .check now => some now
    | _ => none

end Happening

namespace Watcher

/-! ## One step -/

theorem foldl_hear (watcher : Watcher) (changes : List Change) :
    changes.foldl hear watcher
      = { watcher with queue := watcher.queue.map (· ++ changes) } := by
  induction changes generalizing watcher with
  | nil => cases watcher with | mk target queue pending lastBatch => cases queue <;> simp
  | cons change changes ih =>
    rw [List.foldl_cons, ih, hear]
    cases watcher.queue <;> simp

/-- A start that fails changes nothing. -/
theorem startWith_of_error {watcher : Watcher} {there : Bool} {answer : WatchAnswer}
    {error : WatchError} (h : (watcher.startWith there answer).1 = .error error) :
    (watcher.startWith there answer).2 = watcher := by
  cases there with
  | false => rfl
  | true =>
    cases answer with
    | granted => cases h
    | noWatcher words => rfl
    | noWatch words => rfl

/-- A watcher that is stopped is not changed by being asked. -/
theorem check_of_stopped {watcher : Watcher} (h : watcher.isRunning = false) (now : Nat) :
    watcher.check now = (none, watcher) := by
  rw [check, h, if_neg Bool.false_ne_true]

/-- **What comes of asking a watcher that is running**: the queue is emptied
and what lay there is pending, and then all that is pending may be handed
out. -/
theorem check_of_running {watcher : Watcher} {changes : List Change}
    (h : watcher.queue = some changes) (now : Nat) :
    watcher.check now
      = ({ watcher with
            queue := some []
            pending := watcher.pending ++ changes.filter (watcher.target.admits ·.path) }
          : Watcher).release now := by
  rw [check, isRunning, h, Option.isSome_some, if_pos rfl, collect, h]

/-- **The queue is the one that is told from what happened.** -/
theorem queue_step (watcher : Watcher) (happening : Happening) :
    (watcher.step happening).2.queue = happening.queueAfter watcher.queue := by
  cases happening with
  | start there answer => cases there <;> cases answer <;> rfl
  | stop => rfl
  | told telling =>
    show (telling.changes.foldl hear watcher).queue = _
    rw [foldl_hear]
    rfl
  | check now =>
    show (watcher.check now).2.queue = watcher.queue.map fun _ => []
    cases hqueue : watcher.queue with
    | none =>
      rw [check_of_stopped (by rw [isRunning, hqueue]; rfl)]
      exact hqueue
    | some changes =>
      rw [check_of_running hqueue, release]
      split <;> rfl

theorem target_step (watcher : Watcher) (happening : Happening) :
    (watcher.step happening).2.target = watcher.target := by
  cases happening with
  | start there answer => cases there <;> cases answer <;> rfl
  | stop => rfl
  | told telling =>
    show (telling.changes.foldl hear watcher).target = _
    rw [foldl_hear]
  | check now =>
    show (watcher.check now).2.target = watcher.target
    cases hqueue : watcher.queue with
    | none => rw [check_of_stopped (by rw [isRunning, hqueue]; rfl)]
    | some changes =>
      rw [check_of_running hqueue, release]
      split <;> rfl

/-- **What is released was pending.** Either all of it is handed out, summed
up, or it stays as it is. -/
theorem release_cases (watcher : Watcher) (now : Nat) :
    (watcher.pending ≠ [] ∧ watcher.isDue now = true
        ∧ watcher.release now
          = (some (Change.merged watcher.pending),
            { watcher with pending := [], lastBatch := some now }))
      ∨ watcher.release now = (none, watcher) := by
  rw [release]
  split
  · next hdue => exact .inl ⟨hdue.1, hdue.2, rfl⟩
  · exact .inr rfl

/-- **One step loses nothing and makes nothing up**: what was pending and
what is drained is what is handed out, summed up, and what is pending. -/
theorem conserves_step (watcher : Watcher) (happening : Happening) :
    ∃ segments : List (List Change),
      watcher.pending ++ happening.drainedBy watcher.target watcher.queue
          = segments.flatten ++ (watcher.step happening).2.pending
        ∧ List.Forall₂ (fun handout segment => Change.SumsUp handout.batch segment)
          (watcher.step happening).1.toList segments := by
  cases happening with
  | start there answer =>
    refine ⟨[], ?_, .nil⟩
    show watcher.pending ++ [] = (watcher.startWith there answer).2.pending
    rw [List.append_nil]
    cases there <;> cases answer <;> rfl
  | stop => exact ⟨[], List.append_nil _, .nil⟩
  | told telling =>
    refine ⟨[], ?_, .nil⟩
    show watcher.pending ++ [] = (telling.changes.foldl hear watcher).pending
    rw [foldl_hear, List.append_nil]
  | check now =>
    show ∃ segments : List (List Change), _ = _ ++ (watcher.check now).2.pending
      ∧ List.Forall₂ _ ((watcher.check now).1.map (Handout.mk now)).toList segments
    cases hqueue : watcher.queue with
    | none =>
      rw [check_of_stopped (by rw [isRunning, hqueue]; rfl)]
      exact ⟨[], List.append_nil _, .nil⟩
    | some changes =>
      rw [check_of_running hqueue, Happening.drainedBy]
      rcases release_cases { watcher with
          queue := some []
          pending := watcher.pending ++ changes.filter (watcher.target.admits ·.path) } now
        with ⟨hpending, -, hrelease⟩ | hrelease
      · rw [hrelease]
        refine ⟨[_], ?_, .cons (Change.sumsUp_merged hpending) .nil⟩
        rw [List.flatten_singleton, List.append_nil]
      · rw [hrelease]
        exact ⟨[], rfl, .nil⟩

/-- **A step that hands out a batch is late enough**, and its time is kept;
any other keeps the time of the last batch. -/
theorem lastBatch_step (watcher : Watcher) (happening : Happening) :
    (∃ now batch, happening = .check now
        ∧ (watcher.step happening).1 = some ⟨now, batch⟩
        ∧ (watcher.step happening).2.lastBatch = some now
        ∧ ∀ last, watcher.lastBatch = some last → watcher.target.debounce ≤ now - last)
      ∨ (watcher.step happening).1 = none
        ∧ (watcher.step happening).2.lastBatch = watcher.lastBatch := by
  cases happening with
  | start there answer => exact .inr ⟨rfl, by cases there <;> cases answer <;> rfl⟩
  | stop => exact .inr ⟨rfl, rfl⟩
  | told telling =>
    refine .inr ⟨rfl, ?_⟩
    show (telling.changes.foldl hear watcher).lastBatch = _
    rw [foldl_hear]
  | check now =>
    simp only [step]
    cases hqueue : watcher.queue with
    | none =>
      rw [check_of_stopped (by rw [isRunning, hqueue]; rfl)]
      exact .inr ⟨rfl, rfl⟩
    | some changes =>
      rw [check_of_running hqueue]
      rcases release_cases { watcher with
          queue := some []
          pending := watcher.pending ++ changes.filter (watcher.target.admits ·.path) } now
        with ⟨-, hdue, hrelease⟩ | hrelease
      · rw [hrelease]
        refine .inl ⟨now, _, rfl, rfl, rfl, fun last hlast => ?_⟩
        rw [isDue] at hdue
        dsimp only at hdue
        rw [hlast] at hdue
        exact of_decide_eq_true hdue
      · rw [hrelease]
        exact .inr ⟨rfl, rfl⟩

/-! ## Runs -/

theorem run_cons (watcher : Watcher) (happening : Happening) (rest : List Happening) :
    watcher.run (happening :: rest)
      = ((watcher.step happening).1.toList ++ ((watcher.step happening).2.run rest).1,
        ((watcher.step happening).2.run rest).2) := rfl

/-- **A run loses nothing and makes nothing up.** -/
theorem conserves_run (watcher : Watcher) (happenings : List Happening) :
    ∃ segments : List (List Change),
      watcher.pending ++ Happening.drained watcher.target watcher.queue happenings
          = segments.flatten ++ (watcher.run happenings).2.pending
        ∧ List.Forall₂ (fun handout segment => Change.SumsUp handout.batch segment)
          (watcher.run happenings).1 segments := by
  induction happenings generalizing watcher with
  | nil => exact ⟨[], List.append_nil _, .nil⟩
  | cons happening rest ih =>
    obtain ⟨segments, hstep, hbatches⟩ := watcher.conserves_step happening
    obtain ⟨others, hrest, hothers⟩ := ih (watcher.step happening).2
    rw [target_step, queue_step] at hrest
    refine ⟨segments ++ others, ?_, ?_⟩
    · rw [Happening.drained, ← List.append_assoc, hstep, List.append_assoc, hrest,
        ← List.append_assoc, List.flatten_append, run_cons]
    · rw [run_cons]
      exact List.rel_append hbatches hothers

/-- **Batches are apart.** The time of the batch before the run belongs to
the times of the batches of the run, if it is not later than any check. -/
theorem isChain_times_run (watcher : Watcher) (happenings : List Happening)
    (hordered : (watcher.lastBatch.toList ++ Happening.checkTimes happenings).Pairwise (· ≤ ·)) :
    (watcher.lastBatch.toList ++ (watcher.run happenings).1.map (·.time)).IsChain
      fun earlier later => earlier + watcher.target.debounce ≤ later := by
  induction happenings generalizing watcher with
  | nil =>
    rw [run, List.map_nil, List.append_nil]
    cases watcher.lastBatch with
    | none => exact .nil
    | some last => exact .singleton last
  | cons happening rest ih =>
    have hih := ih (watcher.step happening).2
    rw [target_step] at hih
    rw [run_cons, List.map_append]
    rcases watcher.lastBatch_step happening with ⟨now, batch, rfl, hhandout, hlast, hlate⟩
      | ⟨hhandout, hlast⟩
    · rw [hlast] at hih
      have hnow := hih (List.pairwise_append.mp hordered).2.1
      rw [hhandout]
      cases hbefore : watcher.lastBatch with
      | none => exact hnow
      | some last =>
        rw [hbefore] at hordered
        have hle : last ≤ now := (List.pairwise_cons.mp hordered).1 now List.mem_cons_self
        have hlate := hlate last hbefore
        have hapart : last + watcher.target.debounce ≤ now := by omega
        exact List.isChain_cons_cons.mpr ⟨hapart, hnow⟩
    · rw [hlast] at hih
      rw [hhandout]
      refine hih (hordered.sublist (List.Sublist.append_left ?_ _))
      exact (List.sublist_cons_self happening rest).filterMap _

/-- **What a run of a watcher keeps.** Of a watcher that was stopped and had
nothing pending, let anything happen, with checks at times that do not
decrease.

The changes of inputs that are drained are, in order, the segments behind
the batches that were handed out, one for each, and what is pending in the
end. A batch is not empty and sums up its segment. Two batches in a row are
at least the debounce apart. At any time, a start that fails, a stop, and a
check of a watcher that is stopped leave what is pending and the time of the
last batch alone, and a start that fails also leaves the watcher running or
stopped as it was. -/
theorem run_keeps_changes (target : WatchTarget) (happenings : List Happening)
    (hordered : (Happening.checkTimes happenings).Pairwise (· ≤ ·)) :
    (∃ segments : List (List Change),
        Happening.drained target none happenings
            = segments.flatten ++ ((stopped target).run happenings).2.pending
          ∧ List.Forall₂ (fun handout segment => Change.SumsUp handout.batch segment)
            ((stopped target).run happenings).1 segments)
      ∧ (((stopped target).run happenings).1.map (·.time)).IsChain
        (fun earlier later => earlier + target.debounce ≤ later)
      ∧ ∀ watcher : Watcher,
        (∀ there answer error, (watcher.startWith there answer).1 = .error error →
          (watcher.step (.start there answer)).2.pending = watcher.pending
            ∧ (watcher.step (.start there answer)).2.lastBatch = watcher.lastBatch
            ∧ (watcher.step (.start there answer)).2.isRunning = watcher.isRunning)
        ∧ ((watcher.step .stop).2.pending = watcher.pending
          ∧ (watcher.step .stop).2.lastBatch = watcher.lastBatch)
        ∧ (watcher.isRunning = false → ∀ now,
          (watcher.step (.check now)).1 = none
            ∧ (watcher.step (.check now)).2.pending = watcher.pending
            ∧ (watcher.step (.check now)).2.lastBatch = watcher.lastBatch) := by
  refine ⟨(stopped target).conserves_run happenings, ?_, fun watcher => ⟨?_, ⟨rfl, rfl⟩, ?_⟩⟩
  · exact (stopped target).isChain_times_run happenings hordered
  · intro there answer error herror
    show (watcher.startWith there answer).2.pending = _ ∧ _
    rw [step, startWith_of_error herror]
    exact ⟨rfl, rfl, rfl⟩
  · intro hstopped now
    rw [step, check_of_stopped hstopped]
    exact ⟨rfl, rfl, rfl⟩

/-- Features that are watched with a short debounce. -/
def busyTarget : WatchTarget := ⟨⟨"in"⟩, ".feature", 50⟩

/-- A run with starts that fail, a check that comes too early, and a restart
over changes that are pending. -/
def busyRun : List Happening := [
  .start false .granted, .start true (.noWatcher "no descriptors"), .start true .granted,
  .told (.event .modify [⟨"in/a.feature"⟩, ⟨"in/.a.feature.tmp"⟩, ⟨"in/b.feature"⟩]), .check 10,
  .told (.event .access [⟨"in/b.feature"⟩]), .told .trouble, .check 20, .stop, .check 30,
  .start true .granted, .told (.event .create [⟨"in/a.feature"⟩]),
  .told (.event .remove [⟨"in//b.feature"⟩]), .check 90]

/-- Of the busy run nothing is lost, and both batches are whole. -/
theorem run_keeps_changes_busy :
    (Happening.checkTimes busyRun).Pairwise (· ≤ ·)
      ∧ ((stopped busyTarget).run busyRun).1
        = [⟨10, [⟨⟨"in/a.feature"⟩, .modified⟩, ⟨⟨"in/b.feature"⟩, .modified⟩]⟩,
          ⟨90, [⟨⟨"in/b.feature"⟩, .deleted⟩, ⟨⟨"in/a.feature"⟩, .created⟩]⟩]
      ∧ (∃ segments : List (List Change),
        Happening.drained busyTarget none busyRun
            = segments.flatten ++ ((stopped busyTarget).run busyRun).2.pending
          ∧ List.Forall₂ (fun handout segment => Change.SumsUp handout.batch segment)
            ((stopped busyTarget).run busyRun).1 segments)
      ∧ (((stopped busyTarget).run busyRun).1.map (·.time)).IsChain
        (fun earlier later => earlier + busyTarget.debounce ≤ later)
      ∧ ((stopped busyTarget).step (.start false .granted)).2.isRunning
        = (stopped busyTarget).isRunning
      ∧ ((stopped busyTarget).step (.check 0)).1 = none := by
  have hordered : (Happening.checkTimes busyRun).Pairwise (· ≤ ·) := by decide
  obtain ⟨hkept, hapart, hframe⟩ := run_keeps_changes busyTarget busyRun hordered
  obtain ⟨hstart, -, hcheck⟩ := hframe (stopped busyTarget)
  exact ⟨hordered, by decide, hkept, hapart, (hstart false .granted _ rfl).2.2, (hcheck rfl 0).1⟩

end Watcher

end Playscript
