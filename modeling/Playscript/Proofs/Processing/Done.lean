import Playscript.Proofs.Inputs
import Playscript.Proofs.Output.Existing
import Playscript.Proofs.Processing.Stages

/-!
# Inputs that are done

An input is done when its drafts can be prepared and something is found at one
of its targets (`Stage.IsDone`). That is so when it has been processed without
a fault, whether its outputs were written or something was there already; and
it stays so while other inputs are processed, since these are written under
names that no input has. An input that is done is skipped from then on, and
nothing is touched (`Stage.process_of_isDone`).

Nothing of this depends on what is known about selector names. So an input
that was done with some selector tables is done with others.
-/

namespace Playscript

open FileTree Output Session

namespace Stage

variable {stage : Stage} {layout : Layout} {path : Path} {options : WriteOptions}

/-! ## Names -/

/-- What the names end in under which a stage writes. -/
def endings : Stage → List String
  | understanding _ => [Suffix.stepMap, ".tmp"]
  | writing _ => [".js", ".tmp"]

/-- Whether a stage may write under a name. -/
def writes (stage : Stage) (name : String) : Bool :=
  stage.endings.any fun ending => ending.toList.isSuffixOf name.toList

theorem writes_eq_true_iff {name : String} :
    stage.writes name = true ↔ ∃ ending ∈ stage.endings, ending.toList <:+ name.toList := by
  rw [writes, List.any_eq_true]
  simp only [List.isSuffixOf_iff_suffix]

/-- Of two endings of a text one ends in the other. -/
theorem not_suffix_append {a b : List Char} (hab : ¬ a <:+ b) (hba : ¬ b <:+ a)
    (front : List Char) : ¬ a <:+ front ++ b := fun h =>
  (List.suffix_or_suffix_of_suffix h (List.suffix_append front b)).elim hab hba

/-- **No input is written over.** -/
theorem writes_eq_false {name : String} (h : stage.suffix.toList <:+ name.toList) :
    stage.writes name = false := by
  refine eq_false_of_ne_true fun hwrites => ?_
  obtain ⟨ending, hm, hending⟩ := writes_eq_true_iff.mp hwrites
  have hapart : ∀ ending ∈ stage.endings, ¬ ending.toList <:+ stage.suffix.toList
      ∧ ¬ stage.suffix.toList <:+ ending.toList := by
    cases stage with
    | understanding _ =>
      show ∀ ending ∈ [Suffix.stepMap, ".tmp"], ¬ ending.toList <:+ Suffix.feature.toList
        ∧ ¬ Suffix.feature.toList <:+ ending.toList
      decide
    | writing _ =>
      show ∀ ending ∈ [".js", ".tmp"], ¬ ending.toList <:+ Suffix.stepMap.toList
        ∧ ¬ Suffix.stepMap.toList <:+ ending.toList
      decide
  obtain ⟨hleft, hright⟩ := hapart ending hm
  exact (List.suffix_or_suffix_of_suffix h hending).elim hright hleft

theorem writes_of_isHidden {name : String} (h : isHidden name = true) :
    stage.writes name = true := by
  have hm : ".tmp" ∈ stage.endings := by
    cases stage <;> exact List.mem_cons_of_mem _ List.mem_cons_self
  exact writes_eq_true_iff.mpr ⟨".tmp", hm, List.isSuffixOf_iff_suffix.mp h⟩

/-- A joined name with an ending of a stage is a target of it. -/
theorem isNamedTo_join (stage : Stage) (dir : Path) {name ending : String}
    (hname : Path.IsEntry (name ++ ending))
    (hending : ∃ known ∈ stage.endings, known.toList <:+ ending.toList)
    (hhidden : ¬ ".tmp".toList <:+ ending.toList ∧ ¬ ending.toList <:+ ".tmp".toList) :
    IsNamedTo stage.writes (dir.join ⟨name ++ ending⟩) := by
  refine ⟨⟨_, Path.fileName?_join dir hname, ?_, ?_⟩, fun _ => writes_of_isHidden⟩
  · obtain ⟨known, hm, hknown⟩ := hending
    refine writes_eq_true_iff.mpr ⟨known, hm, ?_⟩
    rw [String.toList_append]
    exact hknown.trans (List.suffix_append _ _)
  · refine eq_false_of_ne_true fun h => ?_
    rw [isHidden, List.isSuffixOf_iff_suffix, String.toList_append] at h
    exact not_suffix_append hhidden.1 hhidden.2 _ h

/-- An input is at no place under whose name a stage writes. -/
theorem not_endsIn_writes (workDir : Location) {base : String}
    (h : path.stem? stage.suffix = some base) : ¬ EndsIn stage.writes (aim workDir path) := by
  obtain ⟨dir, haim, -⟩ := exists_aim_eq_cons workDir (Path.fileName?_of_stem? h)
  rintro ⟨last, hlast, hwrites⟩
  rw [haim] at hlast
  obtain rfl := Option.some.inj hlast
  rw [writes_eq_false] at hwrites
  · cases hwrites
  · rw [String.toList_append]
    exact List.suffix_append _ _

/-- **Outputs have names of their own.** -/
theorem isNamedTo_outputsOf (stage : Stage) {base : String}
    (h : path.stem? stage.suffix = some base) :
    ∀ target ∈ stage.outputsOf layout base, IsNamedTo stage.writes target := by
  cases stage with
  | understanding classifier =>
    refine List.forall_mem_singleton.mpr (isNamedTo_join _ _ ?_
      ⟨Suffix.stepMap, List.mem_cons_self, List.suffix_refl _⟩ (by decide))
    exact Path.isEntry_of_stem? h (by decide) (by decide)
  | writing nouns =>
    refine List.forall_mem_cons.mpr ⟨isNamedTo_join _ _ ?_
      ⟨".js", List.mem_cons_self, by decide⟩ (by decide),
      List.forall_mem_singleton.mpr (isNamedTo_join _ _ ?_
        ⟨".js", List.mem_cons_self, by decide⟩ (by decide))⟩
    · exact Path.isEntry_of_stem? h (by decide) (by decide)
    · exact Path.isEntry_of_stem? h (by decide) (by decide)

/-- The base class is written under such a name. -/
theorem advances_base (nouns : NounFinder) {tree after : FileTree} {bytes : ByteArray}
    (h : tree.writeBytes (layout.pageObjects.join ⟨Page.baseFile⟩) bytes = .ok after) :
    Advances (writing nouns).writes tree after := by
  have hentry : Path.IsEntry Page.baseFile :=
    .of_length (List.forall_mem_ne'.mpr (by decide)) (by decide)
  exact advances_writeBytes (Path.fileName?_join _ hentry)
    (writes_eq_true_iff.mpr ⟨".js", List.mem_cons_self, by decide⟩) h

/-- **A stage does nothing but writing under its names.** -/
theorem advances_process (stage : Stage) (layout : Layout) (options : WriteOptions)
    (path : Path) :
    Session.Relates (Advances stage.writes) (stage.process layout options path) := by
  cases stage with
  | understanding classifier =>
    exact relates_classifyFile (fun base hstem text tree =>
      respects_writeAll [(layout.stepMapOf base, text)]
        (allows_advances (isNamedTo_outputsOf (understanding classifier) hstem)) options tree)
      classifier
  | writing nouns =>
    exact relates_process (fun base hstem => allows_advances (isNamedTo_outputsOf _ hstem))
      allowsDirectories_advances (fun tree bytes after => advances_base nouns) options

/-! ## Preparing again -/

variable {before after : FileTree} {base : String} {drafts : List Draft}

theorem readText_of_file {tree : FileTree} {bytes : ByteArray}
    (h : tree.find? path = some (.file bytes)) :
    tree.readText path = match String.fromUTF8? bytes with
      | some text => .ok text
      | none => .error .notText := by
  rw [find?] at h
  cases hlocate : tree.locate path with
  | error error =>
    rw [hlocate] at h
    cases h
  | ok location =>
    rw [hlocate] at h
    dsimp only at h
    rw [readText, hlocate]
    dsimp only [bind, Except.bind]
    rw [h]
    dsimp only
    cases String.fromUTF8? bytes <;> rfl

theorem textOf_of_file {tree : FileTree} {bytes : ByteArray}
    (h : tree.find? path = some (.file bytes)) :
    tree.textOf path = match String.fromUTF8? bytes with
      | some text => .ok text
      | none => .error (.disk .notText) := by
  rw [textOf, h]
  dsimp only
  rw [readText_of_file h]
  cases String.fromUTF8? bytes <;> rfl

/-- A text is that of a file. -/
theorem exists_file_of_textOf {tree : FileTree} {text : String}
    (h : tree.textOf path = .ok text) : ∃ bytes, tree.find? path = some (.file bytes) := by
  rw [textOf] at h
  split at h
  · next bytes hfile => exact ⟨bytes, hfile⟩
  · cases h

/-- **Drafts that were prepared are prepared again**, as long as nothing is
done but writing under the names of outputs. -/
theorem preparedIn_of_advances (h : Advances stage.writes before after)
    (hprepared : stage.preparedIn layout path before = .ok (base, drafts)) :
    stage.preparedIn layout path after = .ok (base, drafts) := by
  obtain ⟨text, htext, hmade⟩ := of_preparedIn hprepared
  obtain ⟨bytes, hfile⟩ := exists_file_of_textOf htext
  have hout := not_endsIn_writes before.workDir (of_made hmade).1
  have hsame : after.textOf path = .ok text := by
    rw [textOf_of_file (find?_of_spares h.spares hfile hout), ← textOf_of_file hfile, htext]
  rw [preparedIn] at hprepared ⊢
  rw [hsame]
  rwa [htext] at hprepared

/-- Stages that make the same outputs of an input, though perhaps with other
contents. -/
inductive Alike : Stage → Stage → Prop
  | understanding (classifier other : Classifier) :
    Alike (.understanding classifier) (.understanding other)
  | writing (nouns : NounFinder) : Alike (.writing nouns) (.writing nouns)

theorem Alike.preparedIn {other : Stage} {tree : FileTree} (h : Alike stage other)
    (hprepared : stage.preparedIn layout path tree = .ok (base, drafts)) :
    ∃ drafts', other.preparedIn layout path tree = .ok (base, drafts')
      ∧ drafts'.map (·.1) = drafts.map (·.1) := by
  cases h with
  | writing nouns => exact ⟨drafts, hprepared, rfl⟩
  | understanding classifier other =>
    obtain ⟨text, htext, hmade⟩ := of_preparedIn hprepared
    rw [Stage.preparedIn, htext]
    rw [made] at hmade
    dsimp only [refusal?]
    rw [made]
    cases hparse : Feature.parse path text with
    | error fault =>
      rw [hparse] at hmade
      cases hmade
    | ok feature =>
      rw [hparse] at hmade
      obtain ⟨rfl, rfl⟩ := Prod.mk.inj (Except.ok.inj hmade)
      exact ⟨_, rfl, rfl⟩

/-! ## Inputs that are done -/

/-- **An input that is done**: something is found at one of its targets. -/
def IsDone (layout : Layout) (path : Path) (stage : Stage) (tree : FileTree) : Prop :=
  ∃ base drafts, stage.preparedIn layout path tree = .ok (base, drafts)
    ∧ ∃ target ∈ drafts.map (·.1), (tree.find? target).isSome

/-- What is found under a name that is not hidden stays found. -/
theorem isSome_find?_of_advances (h : Advances stage.writes before after) {target : Path}
    (htarget : IsNamedTo stage.writes target) (hfound : (before.find? target).isSome) :
    (after.find? target).isSome := by
  obtain ⟨location, hlocate⟩ := exists_locate_of_find? hfound
  obtain ⟨name, hname, -, hhidden⟩ := htarget.name
  rw [find?_of_locate hlocate] at hfound
  rw [find?_of_locate (locate_of_spares h.spares hlocate), h.spares.workDir]
  refine h.there _ ?_ hfound
  obtain ⟨dir, haim, -⟩ := exists_aim_eq_cons before.workDir hname
  rintro ⟨last, hlast, hlasthidden⟩
  rw [haim] at hlast
  obtain rfl := Option.some.inj hlast
  rw [hhidden] at hlasthidden
  cases hlasthidden

/-- **What is done stays done.** -/
theorem IsDone.of_advances (hdone : stage.IsDone layout path before)
    (h : Advances stage.writes before after) : stage.IsDone layout path after := by
  obtain ⟨base, drafts, hprepared, target, hm, hfound⟩ := hdone
  refine ⟨base, drafts, preparedIn_of_advances h hprepared, target, hm, ?_⟩
  obtain ⟨text, -, hmade⟩ := of_preparedIn hprepared
  obtain ⟨hstem, htargets⟩ := of_made hmade
  exact isSome_find?_of_advances h (isNamedTo_outputsOf stage hstem target (htargets ▸ hm)) hfound

theorem IsDone.of_alike (hdone : stage.IsDone layout path after) {other : Stage}
    (h : Alike stage other) : other.IsDone layout path after := by
  obtain ⟨base, drafts, hprepared, target, hm, hfound⟩ := hdone
  obtain ⟨drafts', hprepared', htargets⟩ := h.preparedIn hprepared
  exact ⟨base, drafts', hprepared', target, htargets ▸ hm, hfound⟩

/-- Where a file was moved something is found. -/
theorem isSome_find?_of_moveFile {source target : Path}
    (h : (Disk.moveFile source target : StateM FileTree (Except DiskError Unit)) before
      = (.ok (), after)) : (after.find? target).isSome := by
  obtain ⟨location, hlocate⟩ := exists_locate_of_moveFile h
  obtain ⟨bytes, -, hkind, rfl⟩ := of_moveFile (of_change_ok h)
  rw [find?_of_locate hlocate]
  show (((before.erase _).put _ _).at? (aim before.workDir target)).isSome
  rw [(before.erase _).at?_put_self]
  · rfl
  · intro htop
    rw [htop] at hkind
    exact hkind rfl

/-- Where all was moved into place, something is found at the last target. -/
theorem exists_found_of_placeAll {targets : List Path} (hne : targets ≠ [])
    (h : (placeAll targets : StateM FileTree (Except DiskError Unit)) before = (.ok (), after)) :
    ∃ target ∈ targets, (after.find? target).isSome := by
  induction targets generalizing before with
  | nil => exact absurd rfl hne
  | cons target targets ih =>
    rcases placeAll_cases h with ⟨middle, hmoved, hthen⟩ | ⟨_, -, -, hfailed⟩
    · cases targets with
      | nil =>
        obtain rfl := (Prod.mk.inj hthen).2
        exact ⟨target, List.mem_cons_self, isSome_find?_of_moveFile hmoved⟩
      | cons next targets =>
        obtain ⟨found, hm, hfound⟩ := ih (List.cons_ne_nil _ _) hthen
        exact ⟨found, List.mem_cons_of_mem _ hm, hfound⟩
    · cases hfailed

/-- **Where writing together succeeds**, and not for show, something is at one
of the targets. -/
theorem exists_found_of_writeAll {outcome : Outcome} (hne : drafts ≠ [])
    (hdry : options.dryRun = false)
    (h : (writeAll drafts options : StateM FileTree (Except DiskError Outcome)) before
      = (.ok outcome, after)) : ∃ target ∈ drafts.map (·.1), (after.find? target).isSome := by
  rw [writeAll_eq] at h
  split at h
  · next existing hexisting =>
    obtain rfl := (Prod.mk.inj h).2
    split at hexisting
    · cases hexisting
    · exact ⟨existing, List.mem_of_find?_eq_some hexisting,
        List.find?_some (p := fun path => (before.find? path).isSome) hexisting⟩
  · rw [hdry] at h
    obtain ⟨middle, hplaced⟩ := exists_placeAll_of_writeOrPreview h
    exact exists_found_of_placeAll (mt List.map_eq_nil_iff.mp hne) hplaced

theorem outputsOf_ne_nil (stage : Stage) (layout : Layout) (base : String) :
    stage.outputsOf layout base ≠ [] := by
  cases stage <;> exact List.cons_ne_nil _ _

theorem advances_finish (stage : Stage) (layout : Layout) (report : Report) :
    Session.Relates (Advances stage.writes) (stage.finish layout report) := by
  cases stage with
  | understanding classifier => exact .pure _
  | writing nouns =>
    show Session.Relates _ (withBase layout report)
    rw [withBase]
    split
    · rw [← onTree_ensureBase]
      refine .bind (.onTree (respects_ensureBase allowsDirectories_advances
        fun tree bytes after => advances_base nouns)) fun made => ?_
      cases made <;> exact .pure _
    · exact .pure _

variable {session last : Session}

/-- **An input that was processed without a fault is done.** -/
theorem isDone_of_process (hdry : options.dryRun = false) {report : Report}
    (h : (stage.process layout options path : StateM Session (Except Fault Report)) session
      = (.ok report, last)) : stage.IsDone layout path last.tree := by
  have hall : Advances stage.writes session.tree last.tree := by
    have hadvances := advances_process stage layout options path session
    rwa [h] at hadvances
  rw [process_eq, run_bind (prepare_session layout path stage session)] at h
  cases hprepared : stage.preparedIn layout path session.tree with
  | error fault =>
    rw [hprepared] at h
    cases h
  | ok prepared =>
    obtain ⟨base, drafts⟩ := prepared
    rw [hprepared, complete] at h
    rcases hwrite : (writeAll drafts options
      : StateM FileTree (Except DiskError Outcome)) session.tree with ⟨written, after⟩
    cases written with
    | error error =>
      rw [run_bind (writeOutputs_of_error hwrite path base)] at h
      cases h
    | ok outcome =>
      rw [run_bind (writeOutputs_of_ok hwrite path base)] at h
      have hfinish := advances_finish stage layout ⟨path, base, outcome⟩
        { session with tree := after }
      dsimp only at h
      rw [h] at hfinish
      obtain ⟨text, -, hmade⟩ := of_preparedIn hprepared
      obtain ⟨hstem, htargets⟩ := of_made hmade
      have hne : drafts ≠ [] := by
        rintro rfl
        exact outputsOf_ne_nil stage layout base htargets.symm
      obtain ⟨target, hm, hfound⟩ := exists_found_of_writeAll hne hdry hwrite
      exact ⟨base, drafts, preparedIn_of_advances hall hprepared, target, hm,
        isSome_find?_of_advances hfinish
          (isNamedTo_outputsOf stage hstem target (htargets ▸ hm)) hfound⟩

/-- **An input that is done is skipped** without force, and nothing is
touched. -/
theorem process_of_isDone (hdone : stage.IsDone layout path session.tree)
    (hforce : options.force = false) :
    ∃ base existing, (stage.process layout options path
      : StateM Session (Except Fault Report)) session
        = (.ok ⟨path, base, .skipped existing⟩, session) := by
  obtain ⟨base, drafts, hprepared, target, hm, hfound⟩ := hdone
  rw [process_eq, run_bind (prepare_session layout path stage session), hprepared, complete]
  cases hfirst : (drafts.map (·.1)).find? fun path => (session.tree.find? path).isSome with
  | none => exact absurd hfound (List.find?_eq_none.mp hfirst target hm)
  | some existing =>
    have hskip : (writeAll drafts options : StateM FileTree (Except DiskError Outcome))
        session.tree = (.ok (.skipped existing), session.tree) := by
      rw [writeAll_eq, hforce, if_neg Bool.false_ne_true, hfirst]
    refine ⟨base, existing, ?_⟩
    rw [run_bind (writeOutputs_of_ok hskip path base)]
    cases stage <;> rfl

/-! ## Batches -/

variable {inputs : List Path} {tally total : Tally}

theorem advances_processAll (stage : Stage) (layout : Layout) (options : WriteOptions)
    (inputs : List Path) (tally : Tally) : Session.Relates (Advances stage.writes)
      (processAll (stage.process layout options) tally inputs) :=
  relates_processAll (fun input _ => advances_process stage layout options input) tally

theorem keepsForm_processAll (stage : Stage) (layout : Layout) (options : WriteOptions)
    (inputs : List Path) (tally : Tally) : Session.Relates KeepsForm
      (processAll (stage.process layout options) tally inputs) :=
  relates_processAll (fun input _ => keepsForm_process stage layout options input) tally

/-- What has failed is not forgotten. -/
theorem failed_le_of_processAll {process : Path → StateM Session (Except Fault Report)}
    (h : processAll process tally inputs session = (total, last)) :
    tally.failed ≤ total.failed := by
  induction inputs generalizing tally session with
  | nil =>
    obtain rfl := (Prod.mk.inj h).1
    exact le_refl _
  | cons input inputs ih =>
    rcases hprocess : process input session with ⟨processed, middle⟩
    rw [processAll, run_bind hprocess] at h
    cases processed with
    | ok report =>
      have hrecord : (tally.record report.outcome).failed = tally.failed := by
        cases report.outcome <;> rfl
      have hthen : processAll process (tally.record report.outcome) inputs
        { middle with told := middle.told ++ [.report report] } = (total, last) := h
      exact hrecord ▸ ih hthen
    | error fault =>
      have hthen : processAll process tally.recordFailure inputs
        { middle with told := middle.told ++ [.failure input fault] } = (total, last) := h
      exact Nat.le_of_succ_le (ih hthen)

/-- **After a batch in which nothing fails, all inputs are done.** -/
theorem isDone_of_processAll (hdry : options.dryRun = false)
    (h : (processAll (stage.process layout options) tally inputs : StateM Session Tally) session
      = (total, last))
    (hfailed : total.failed = 0) : ∀ input ∈ inputs, stage.IsDone layout input last.tree := by
  induction inputs generalizing tally session with
  | nil => exact List.forall_mem_nil _
  | cons input inputs ih =>
    rcases hprocess : (stage.process layout options input
      : StateM Session (Except Fault Report)) session with ⟨processed, middle⟩
    rw [processAll, run_bind hprocess] at h
    cases processed with
    | error fault =>
      have hthen : (processAll (stage.process layout options) tally.recordFailure inputs
        : StateM Session Tally) { middle with told := middle.told ++ [.failure input fault] }
          = (total, last) := h
      have hle := failed_le_of_processAll hthen
      rw [hfailed] at hle
      exact absurd hle (Nat.not_succ_le_zero _)
    | ok report =>
      have hthen : (processAll (stage.process layout options) (tally.record report.outcome)
        inputs : StateM Session Tally) { middle with told := middle.told ++ [.report report] }
          = (total, last) := h
      have hrest : Advances stage.writes middle.tree last.tree := by
        have hadvances := advances_processAll stage layout options inputs
          (tally.record report.outcome) { middle with told := middle.told ++ [.report report] }
        rwa [hthen] at hadvances
      exact List.forall_mem_cons.mpr
        ⟨(isDone_of_process hdry hprocess).of_advances hrest, ih hthen⟩

/-- **A batch of inputs that are done** skips them all. -/
theorem processAll_of_isDone (session : Session) (hforce : options.force = false)
    (hdone : ∀ input ∈ inputs, stage.IsDone layout input session.tree) (tally : Tally) :
    ∃ reports : List Report, reports.map (·.input) = inputs
      ∧ (∀ report ∈ reports, ∃ existing, report.outcome = .skipped existing)
      ∧ (processAll (stage.process layout options) tally inputs : StateM Session Tally) session
        = ({ tally with skipped := tally.skipped + inputs.length },
          { session with told := session.told ++ reports.map Notice.report }) := by
  induction inputs generalizing tally session with
  | nil =>
    refine ⟨[], rfl, List.forall_mem_nil _, ?_⟩
    rw [List.map_nil, List.append_nil]
    rfl
  | cons input inputs ih =>
    obtain ⟨hinput, hinputs⟩ := List.forall_mem_cons.mp hdone
    obtain ⟨base, existing, hprocess⟩ := process_of_isDone hinput hforce
    let report : Report := ⟨input, base, .skipped existing⟩
    obtain ⟨reports, hnames, hskipped, hrun⟩ :=
      ih { session with told := session.told ++ [.report report] } hinputs
        (tally.record report.outcome)
    refine ⟨report :: reports, by rw [List.map_cons, hnames],
      List.forall_mem_cons.mpr ⟨⟨existing, rfl⟩, hskipped⟩, ?_⟩
    rw [processAll, run_bind hprocess]
    refine hrun.trans ?_
    rw [List.append_assoc, List.length_cons, Nat.add_comm inputs.length, ← Nat.add_assoc]
    rfl

end Stage

end Playscript
