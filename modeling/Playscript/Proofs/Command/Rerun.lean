import Playscript.Proofs.Command.Existing
import Playscript.Proofs.Processing.Done

/-!
# Running again

A run that has succeeded can be repeated without force, and then it does
nothing: it selects the same inputs and skips each of them, since something is
at one of its targets. That needs no more than that inputs are never written
over (`Stage.writes_eq_false`), that they are found again in the order in which
they were (`Inputs.select_of_advances`), and that an input without a fault is
done (`Stage.isDone_of_process`). It does not matter which directories are one
and the same.

There is one thing that is read but does not have to be there: the selector
tables. The directory of the step maps may be made where a table could be, or
on the way to one. Then a table comes to light that was not there for the first
run, and if it is none, the second run fails
(`Invocation.not_forall_rerun_succeeds`). This is the only way in which it does
not succeed (`Invocation.rerun_skips`).
-/

namespace Playscript

open FileTree Output Session

/-- **A command without force.** -/
def Command.unforced : Command → Command
  | steps selection => steps { selection with force := false }
  | tests selection dryRun outputDir => tests { selection with force := false } dryRun outputDir

namespace Selectors

/-! ## Selector tables -/

variable {α : Type} {read : Json → Option α} {path : Path} {session before after : Session}

theorem isThere_eq (path : Path) (session : Session) :
    (Disk.isThere path : StateM Session Bool) session
      = ((session.tree.find? path).isSome, session) := rfl

theorem readText_eq (path : Path) (session : Session) :
    (Disk.readText path : StateM Session (Except DiskError String)) session
      = (session.tree.readText path, session) := rfl

/-- A table is what the text of its file says. -/
theorem loadTable_congr {bytes : ByteArray} (h : before.tree.find? path = some (.file bytes))
    (h' : after.tree.find? path = some (.file bytes)) :
    ((loadTable read path : StateM Session (Except Fault (List (String × α)))) after).1
      = ((loadTable read path : StateM Session (Except Fault (List (String × α)))) before).1 := by
  rw [loadTable, run_bind (isThere_eq path after), run_bind (isThere_eq path before), h, h',
    if_pos (show (some (Node.file bytes)).isSome = true from rfl),
    run_bind (readText_eq path after), run_bind (readText_eq path before),
    Stage.readText_of_file h, Stage.readText_of_file h']
  cases String.fromUTF8? bytes with
  | none => rfl
  | some text =>
    dsimp only
    cases (Json.parse? text).bind (Json.asTable? read) <;> rfl

theorem loadTable_of_none (h : session.tree.find? path = none) :
    ((loadTable read path : StateM Session (Except Fault (List (String × α)))) session).1
      = .ok [] := by
  rw [loadTable, run_bind (isThere_eq path session), h]
  rfl

theorem loadTable_of_directory (h : session.tree.find? path = some .directory) :
    ((loadTable read path : StateM Session (Except Fault (List (String × α)))) session).1
      = .error (.disk .wrongKind) := by
  have hread : session.tree.readText path = .error .wrongKind := by
    obtain ⟨location, hlocate⟩ := exists_locate_of_find? (by rw [h]; rfl)
    rw [find?, hlocate] at h
    dsimp only at h
    rw [readText, hlocate]
    dsimp only [bind, Except.bind]
    rw [h]
  rw [loadTable, run_bind (isThere_eq path session), h, if_pos (show (some Node.directory).isSome
    = true from rfl), run_bind (readText_eq path session), hread]
  rfl

/-- **A table that can no longer be loaded** was not there before, but is
now. -/
theorem of_loadTable {kind : String → Bool} (h : Advances kind before.tree after.tree)
    {name : String} (hname : path.fileName? = some name) (hkind : kind name = false)
    {entries : List (String × α)} {fault : Fault}
    (hbefore : ((loadTable read path
      : StateM Session (Except Fault (List (String × α)))) before).1 = .ok entries)
    (hafter : ((loadTable read path
      : StateM Session (Except Fault (List (String × α)))) after).1 = .error fault) :
    before.tree.find? path = none ∧ (after.tree.find? path).isSome := by
  have hthere : (after.tree.find? path).isSome := by
    rw [Option.isSome_iff_ne_none]
    intro hnone
    rw [loadTable_of_none hnone] at hafter
    cases hafter
  refine ⟨?_, hthere⟩
  cases hfind : before.tree.find? path with
  | none => rfl
  | some node =>
    cases node with
    | directory =>
      rw [loadTable_of_directory hfind] at hbefore
      cases hbefore
    | file bytes =>
      have hout : ¬ EndsIn kind (aim before.tree.workDir path) := by
        obtain ⟨dir, haim, -⟩ := exists_aim_eq_cons before.tree.workDir hname
        rintro ⟨last, hlast, hlastkind⟩
        rw [haim] at hlast
        obtain rfl := Option.some.inj hlast
        rw [hkind] at hlastkind
        cases hlastkind
      rw [loadTable_congr hfind (find?_of_spares h.spares hfind hout), hbefore] at hafter
      cases hafter

/-- The tables are loaded one after the other. -/
theorem load_eq (layout : Layout) (session : Session) :
    ((Selectors.load layout : StateM Session (Except Fault Selectors)) session).1
      = match ((loadTable Json.asString? layout.aliasFile
          : StateM Session (Except Fault (List (String × String)))) session).1 with
        | .error fault => .error fault
        | .ok aliases =>
          match ((loadTable Json.asStrings? layout.fallbackFile
            : StateM Session (Except Fault (List (String × List String)))) session).1 with
          | .error fault => .error fault
          | .ok fallbacks =>
            .ok ⟨builtin.aliases.putAll aliases, builtin.fallbacks.putAll fallbacks⟩ := by
  rw [Selectors.load, (readsOnly_loadTable _ _).run_bind]
  cases ((loadTable Json.asString? layout.aliasFile
      : StateM Session (Except Fault (List (String × String)))) session).1 with
  | error fault => rfl
  | ok aliases =>
    dsimp only
    rw [(readsOnly_loadTable _ _).run_bind]
    cases ((loadTable Json.asStrings? layout.fallbackFile
      : StateM Session (Except Fault (List (String × List String)))) session).1 <;> rfl

/-- **Where the tables can no longer be loaded**, one of them was not there
before. -/
theorem exists_table_of_load {kind : String → Bool} (h : Advances kind before.tree after.tree)
    {layout : Layout}
    (hnames : ∀ path ∈ [layout.aliasFile, layout.fallbackFile],
      ∃ name, path.fileName? = some name ∧ kind name = false)
    {selectors : Selectors} {fault : Fault}
    (hbefore : ((Selectors.load layout : StateM Session (Except Fault Selectors)) before).1
      = .ok selectors)
    (hafter : ((Selectors.load layout : StateM Session (Except Fault Selectors)) after).1
      = .error fault) :
    ∃ path ∈ [layout.aliasFile, layout.fallbackFile],
      before.tree.find? path = none ∧ (after.tree.find? path).isSome := by
  rw [load_eq] at hbefore hafter
  obtain ⟨⟨first, hfirst, hkind⟩, hothers⟩ := List.forall_mem_cons.mp hnames
  obtain ⟨second, hsecond, hkind'⟩ := hothers _ List.mem_cons_self
  split at hbefore
  · cases hbefore
  next aliases haliases =>
  split at hbefore
  · cases hbefore
  next fallbacks hfallbacks =>
  split at hafter
  · next hfault => exact ⟨_, List.mem_cons_self, of_loadTable h hfirst hkind haliases hfault⟩
  · split at hafter
    · next hfault =>
      exact ⟨_, List.mem_cons_of_mem _ List.mem_cons_self,
        of_loadTable h hsecond hkind' hfallbacks hfault⟩
    · cases hafter

end Selectors

namespace Job

variable {job : Job (StateM Session)} {options : WriteOptions} {inputs : List Path}
  {session last : Session} {tally : Tally}

/-- What is told before a batch. -/
def opening (job : Job (StateM Session)) (inputs : List Path) : List Notice :=
  if inputs.isEmpty then [.info ("no *" ++ job.suffix ++ " files in " ++ job.dir.text)] else []

/-- A job is run by processing a batch between two notices. -/
theorem runOn_eq (h : (processAll (job.process options) Tally.zero inputs : StateM Session Tally)
      { session with told := session.told ++ job.opening inputs } = (tally, last)) :
    (job.runOn options inputs : StateM Session Tally) session
      = (tally, { last with told := last.told ++ [.summary tally] }) := by
  rw [opening] at h
  rw [Job.runOn]
  split
  · next hempty =>
    rw [if_pos hempty] at h
    have htell (notice : Notice) : (Console.tell notice : StateM Session Unit) session
        = ((), { session with told := session.told ++ [notice] }) := rfl
    rw [run_bind (htell _)]
    exact run_bind h _
  · next hsome =>
    rw [if_neg hsome, List.append_nil] at h
    exact run_bind h _

theorem exists_processAll_of_runOn
    (h : (job.runOn options inputs : StateM Session Tally) session = (tally, last)) :
    ∃ middle, (processAll (job.process options) Tally.zero inputs : StateM Session Tally)
        { session with told := session.told ++ job.opening inputs } = (tally, middle)
      ∧ last.tree = middle.tree := by
  rcases hall : (processAll (job.process options) Tally.zero inputs : StateM Session Tally)
    { session with told := session.told ++ job.opening inputs } with ⟨total, middle⟩
  rw [runOn_eq hall] at h
  obtain ⟨rfl, rfl⟩ := Prod.mk.inj h
  exact ⟨middle, rfl, rfl⟩

end Job

namespace Invocation

/-- **An invocation without force.** -/
def unforced (invocation : Invocation) : Invocation :=
  { invocation with command := invocation.command.unforced }

variable {invocation : Invocation} {session after : Session} {job : Job (StateM Session)}

/-! ## What force has to do with -/

theorem inputDir_unforced (invocation : Invocation) :
    invocation.unforced.inputDir = invocation.inputDir := by
  obtain ⟨_, _, _, _ | ⟨_, _, _ | _⟩⟩ := invocation <;> rfl

theorem inputSuffix_unforced (invocation : Invocation) :
    invocation.unforced.inputSuffix = invocation.inputSuffix := by
  obtain ⟨_, _, _, _ | ⟨_, _, _ | _⟩⟩ := invocation <;> rfl

theorem selection_unforced (invocation : Invocation) :
    invocation.unforced.command.selection
      = { invocation.command.selection with force := false } := by
  obtain ⟨_, _, _, _ | ⟨_, _, _ | _⟩⟩ := invocation <;> rfl

theorem force_unforced (invocation : Invocation) :
    invocation.unforced.command.options.force = false := by
  obtain ⟨_, _, _, _ | ⟨_, _, _ | _⟩⟩ := invocation <;> rfl

theorem jobIn_unforced (invocation : Invocation) (session : Session) :
    invocation.unforced.jobIn session = invocation.jobIn session := by
  obtain ⟨_, _, _, _ | ⟨_, _, _ | _⟩⟩ := invocation <;> rfl

/-! ## Stages of invocations -/

/-- **The stage that an invocation is about.** -/
def HasStage (invocation : Invocation) (stage : Stage) : Prop :=
  match invocation.command with
  | .steps _ => ∃ classifier, stage = .understanding classifier
  | .tests _ _ _ => stage = .writing Lexicon.nouns

theorem HasStage.suffix_eq {stage : Stage} (h : invocation.HasStage stage) :
    stage.suffix = invocation.inputSuffix := by
  rw [HasStage] at h
  rw [inputSuffix]
  cases hcommand : invocation.command with
  | steps selection =>
    rw [hcommand] at h
    obtain ⟨classifier, rfl⟩ := h
    rfl
  | tests selection dryRun outputDir =>
    rw [hcommand] at h
    obtain rfl : stage = _ := h
    rfl

theorem HasStage.alike {stage other : Stage} (h : invocation.HasStage stage)
    (h' : invocation.HasStage other) : stage.Alike other := by
  rw [HasStage] at h h'
  cases hcommand : invocation.command with
  | steps selection =>
    rw [hcommand] at h h'
    obtain ⟨classifier, rfl⟩ := h
    obtain ⟨classifier', rfl⟩ := h'
    exact .understanding _ _
  | tests selection dryRun outputDir =>
    rw [hcommand] at h h'
    obtain rfl : stage = _ := h
    obtain rfl : other = _ := h'
    exact .writing _

/-- A job is a stage with the inputs of its command. -/
theorem exists_stage (h : invocation.jobIn session = .ok job) :
    ∃ stage, invocation.HasStage stage
      ∧ job = ⟨invocation.inputDir, invocation.inputSuffix,
        fun options path => stage.process invocation.layout options path⟩ := by
  rcases job_cases h with ⟨_, classifier, hcommand, rfl⟩ | ⟨_, _, _, hcommand, rfl⟩
  · refine ⟨.understanding classifier, ?_, ?_⟩
    · rw [HasStage, hcommand]
      exact ⟨classifier, rfl⟩
    · rw [inputDir, inputSuffix, hcommand]
      rfl
  · refine ⟨.writing Lexicon.nouns, ?_, ?_⟩
    · rw [HasStage, hcommand]
    · rw [inputDir, inputSuffix, hcommand]
      rfl

/-! ## Running once -/

/-- **What a run comes to** when nothing is watched. -/
theorem run_eq (hwatch : invocation.command.selection.watch = false) (session : Session) :
    (invocation.run : StateM Session (Except CommandError (Option (Job (StateM Session))))) session
      = if !invocation.command.selection.isGiven then (.error .noInput, session)
        else match invocation.jobIn session with
          | .error fault => (.error (.fault fault), session)
          | .ok job =>
            match ((Inputs.select job.dir job.suffix invocation.command.selection.all
                invocation.command.selection.files
                : StateM Session (Except Fault (List Path))) session).1 with
            | .error fault => (.error (.fault fault), session)
            | .ok inputs =>
              (((job.runOn invocation.command.options inputs : StateM Session Tally)
                session).1.check.map fun _ => none,
                ((job.runOn invocation.command.options inputs : StateM Session Tally)
                  session).2) := by
  rw [Invocation.run]
  split
  · rfl
  rw [run_bind (job_eq invocation session)]
  cases invocation.jobIn session with
  | error fault => rfl
  | ok job =>
    dsimp only
    rw [(readsOnly_select _ _ _ _).run_bind]
    cases ((Inputs.select job.dir job.suffix invocation.command.selection.all
        invocation.command.selection.files
        : StateM Session (Except Fault (List Path))) session).1 with
    | error fault => rfl
    | ok inputs =>
      dsimp only
      rw [hwatch]
      rfl

theorem check_eq_ok_iff {tally : Tally} : tally.check = .ok () ↔ tally.failed = 0 := by
  rw [Tally.check]
  split
  · next h => exact iff_of_false nofun (Nat.ne_of_gt h)
  · next h => exact iff_of_true rfl (Nat.eq_zero_of_not_pos h)

/-- **A run that succeeds** has selected inputs, and none of them has
failed. -/
theorem of_run (hwatch : invocation.command.selection.watch = false)
    (hrun : (invocation.run
      : StateM Session (Except CommandError (Option (Job (StateM Session))))) session
      = (.ok none, after)) :
    invocation.command.selection.isGiven = true
      ∧ ∃ stage inputs tally, invocation.HasStage stage
        ∧ invocation.jobIn session = .ok ⟨invocation.inputDir, invocation.inputSuffix,
          fun options path => stage.process invocation.layout options path⟩
        ∧ ((Inputs.select invocation.inputDir invocation.inputSuffix
            invocation.command.selection.all invocation.command.selection.files
            : StateM Session (Except Fault (List Path))) session).1 = .ok inputs
        ∧ tally.failed = 0
        ∧ ∃ told middle,
          (processAll (stage.process invocation.layout invocation.command.options) Tally.zero inputs
            : StateM Session Tally) { session with told := told } = (tally, middle)
          ∧ after.tree = middle.tree := by
  rw [run_eq hwatch session] at hrun
  split at hrun
  · cases hrun
  next hgiven =>
  refine ⟨by simpa using hgiven, ?_⟩
  cases hjob : invocation.jobIn session with
  | error fault =>
    rw [hjob] at hrun
    cases hrun
  | ok job =>
    rw [hjob] at hrun
    obtain ⟨stage, hstage, rfl⟩ := exists_stage hjob
    dsimp only at hrun
    cases hselect : ((Inputs.select invocation.inputDir invocation.inputSuffix
        invocation.command.selection.all invocation.command.selection.files
        : StateM Session (Except Fault (List Path))) session).1 with
    | error fault =>
      rw [hselect] at hrun
      cases hrun
    | ok inputs =>
      rw [hselect] at hrun
      dsimp only at hrun
      rcases hrunOn : (Job.runOn ⟨invocation.inputDir, invocation.inputSuffix,
          fun options path => stage.process invocation.layout options path⟩
          invocation.command.options inputs : StateM Session Tally) session with ⟨tally, last⟩
      rw [hrunOn] at hrun
      obtain ⟨hcheck, rfl⟩ := Prod.mk.inj hrun
      obtain ⟨middle, hall, htree⟩ := Job.exists_processAll_of_runOn hrunOn
      refine ⟨stage, inputs, tally, hstage, rfl, rfl, ?_, _, middle, hall, htree⟩
      refine check_eq_ok_iff.mp ?_
      cases htally : tally.check with
      | ok _ => rfl
      | error error =>
        rw [htally] at hcheck
        cases hcheck

/-! ## Tables that come to light -/

/-- The selector tables are in the directory of the project, wherever its other
files are. -/
theorem tables_eq (invocation : Invocation) :
    invocation.layout.aliasFile = invocation.root.join ⟨"selector-aliases.json"⟩
      ∧ invocation.layout.fallbackFile = invocation.root.join ⟨"selector-fallbacks.json"⟩ := by
  have hinput : invocation.inputLayout.aliasFile = (Layout.beneath invocation.root).aliasFile
      ∧ invocation.inputLayout.fallbackFile = (Layout.beneath invocation.root).fallbackFile := by
    unfold inputLayout
    dsimp only
    cases invocation.command.selection.featuresDir <;>
      cases invocation.command.selection.stepMapsDir <;> exact ⟨rfl, rfl⟩
  rw [layout]
  split <;> exact hinput

/-- The names of the selector tables are no names of outputs. -/
theorem fileName?_tables {path : Path}
    (hm : path ∈ [invocation.layout.aliasFile, invocation.layout.fallbackFile])
    (classifier : Classifier) :
    ∃ name, path.fileName? = some name
      ∧ (Stage.understanding classifier).writes name = false := by
  have hentry {name : String} (hslash : '/' ∉ name.toList) (hlength : 3 ≤ name.toList.length) :
      Path.IsEntry name := .of_length (List.forall_mem_ne'.mpr hslash) hlength
  have hwrites {name : String}
      (h : ∀ ending ∈ [Suffix.stepMap, ".tmp"], ¬ ending.toList <:+ name.toList) :
      (Stage.understanding classifier).writes name = false := by
    refine eq_false_of_ne_true fun hwritten => ?_
    obtain ⟨ending, hm, hending⟩ := Stage.writes_eq_true_iff.mp hwritten
    exact h ending hm hending
  rw [invocation.tables_eq.1, invocation.tables_eq.2] at hm
  rcases List.mem_pair.mp hm with rfl | rfl
  · exact ⟨_, Path.fileName?_join _ (hentry (by decide) (by decide)), hwrites (by decide)⟩
  · exact ⟨_, Path.fileName?_join _ (hentry (by decide) (by decide)), hwrites (by decide)⟩

/-- **Only a table that has come to light** stands in the way of a job that
there was before. -/
theorem exists_table_of_jobIn {stage : Stage} (hstage : invocation.HasStage stage)
    (h : Advances stage.writes session.tree after.tree)
    (hbefore : invocation.jobIn session = .ok job) {fault : Fault}
    (hafter : invocation.jobIn after = .error fault) :
    ∃ selection, invocation.command = .steps selection
      ∧ ∃ path ∈ [invocation.layout.aliasFile, invocation.layout.fallbackFile],
        session.tree.find? path = none ∧ (after.tree.find? path).isSome := by
  rw [HasStage] at hstage
  cases hcommand : invocation.command with
  | tests selection dryRun outputDir =>
    rw [jobIn_tests hcommand] at hafter
    cases hafter
  | steps selection =>
    rw [hcommand] at hstage
    obtain ⟨classifier, rfl⟩ := hstage
    refine ⟨selection, rfl, ?_⟩
    rw [jobIn_steps hcommand] at hbefore hafter
    cases hselectors : ((Selectors.load invocation.layout
      : StateM Session (Except Fault Selectors)) session).1 with
    | error fault =>
      rw [hselectors] at hbefore
      cases hbefore
    | ok selectors =>
      cases hfault : ((Selectors.load invocation.layout
        : StateM Session (Except Fault Selectors)) after).1 with
      | ok selectors =>
        rw [hfault] at hafter
        cases hafter
      | error fault =>
        exact Selectors.exists_table_of_load h (fun path hm => fileName?_tables hm classifier)
          hselectors hfault

/-! ## Running twice -/

/-- **A run that has succeeded is repeated in vain.** Without force it selects
the same inputs and changes nothing. If the selector tables can be read, it
skips every input and succeeds; if not, a table has come to light that was not
there for the first run. -/
theorem rerun_skips (htree : session.tree.WellFormed)
    (hwatch : invocation.command.selection.watch = false)
    (hdry : invocation.command.options.dryRun = false)
    (hrun : (invocation.run
      : StateM Session (Except CommandError (Option (Job (StateM Session))))) session
      = (.ok none, after)) :
    let again := invocation.unforced
    let rerun : StateM Session (Except CommandError (Option (Job (StateM Session)))) := again.run
    again.inputs after = invocation.inputs session
    ∧ again.treeAfter after = after.tree
    ∧ match again.jobIn after with
      | .ok job => ∃ reports : List Report, reports.map (·.input) = invocation.inputs session
          ∧ (∀ report ∈ reports, ∃ existing, report.outcome = .skipped existing)
          ∧ rerun after = (.ok none, { after with
              told := after.told ++ job.opening (invocation.inputs session)
                ++ reports.map Notice.report ++ [.summary ⟨0, reports.length, 0, 0⟩] })
      | .error fault => rerun after = (.error (.fault fault), after)
          ∧ ∃ selection, invocation.command = .steps selection
          ∧ ∃ path ∈ [invocation.layout.aliasFile, invocation.layout.fallbackFile],
            session.tree.find? path = none ∧ (after.tree.find? path).isSome := by
  intro again rerun
  obtain ⟨hgiven, stage, inputs, tally, hstage, hjob, hselect, hfailed, told, middle, hall,
    hmiddle⟩ := of_run hwatch hrun
  have hadvances : Advances stage.writes session.tree after.tree := by
    have hrelates := Stage.advances_processAll stage invocation.layout
      invocation.command.options inputs Tally.zero { session with told := told }
    rw [hall] at hrelates
    rwa [hmiddle]
  have hform : after.tree.WellFormed := by
    have hrelates := Stage.keepsForm_processAll stage invocation.layout
      invocation.command.options inputs Tally.zero { session with told := told }
    rw [hall] at hrelates
    rw [hmiddle]
    exact hrelates htree
  have hselect' := Inputs.select_of_advances htree hform hadvances
    (fun name hname => Stage.writes_eq_false (hstage.suffix_eq ▸ hname)) hselect
  have hinputs : invocation.inputs session = inputs := by
    rw [Invocation.inputs, hselect]
  have hinputs' : again.inputs after = inputs := by
    rw [Invocation.inputs, inputDir_unforced, inputSuffix_unforced, selection_unforced]
    dsimp only
    rw [hselect']
  have hdone : ∀ input ∈ inputs, stage.IsDone invocation.layout input after.tree := by
    rw [hmiddle]
    exact Stage.isDone_of_processAll hdry hall hfailed
  have hwatch' : again.command.selection.watch = false := by
    rw [selection_unforced]
    exact hwatch
  have hrerun : rerun after = _ := run_eq hwatch' after
  have hgiven' : ¬ (!again.command.selection.isGiven) = true := by
    rw [selection_unforced, Bool.not_eq_true, Bool.not_eq_false']
    exact hgiven
  rw [if_neg hgiven', jobIn_unforced] at hrerun
  have htree' (h : (rerun after).2.tree = after.tree) : again.treeAfter after = after.tree := h
  rw [hinputs, hinputs', jobIn_unforced]
  refine ⟨rfl, ?_⟩
  cases hjob' : invocation.jobIn after with
  | error fault =>
    rw [hjob'] at hrerun
    exact ⟨htree' (by rw [hrerun]), hrerun, exists_table_of_jobIn hstage hadvances hjob hjob'⟩
  | ok job =>
    obtain ⟨other, hother, rfl⟩ := exists_stage hjob'
    let start : List Notice := Job.opening ⟨invocation.inputDir, invocation.inputSuffix,
      fun options path => other.process invocation.layout options path⟩ inputs
    obtain ⟨reports, hnames, hskipped, hprocess⟩ := Stage.processAll_of_isDone
      { after with told := after.told ++ start } (force_unforced invocation)
      (fun input hm => (hdone input hm).of_alike (hstage.alike hother)) Tally.zero
    rw [hjob'] at hrerun
    dsimp only at hrerun
    rw [selection_unforced] at hrerun
    dsimp only at hrerun
    rw [hselect'] at hrerun
    dsimp only at hrerun
    rw [Job.runOn_eq hprocess] at hrerun
    have hlength : reports.length = inputs.length := by rw [← hnames, List.length_map]
    refine ⟨htree' (by rw [hrerun]), reports, hnames, hskipped, ?_⟩
    have hskips : Tally.zero.skipped + inputs.length = inputs.length := Nat.zero_add _
    rw [hrerun, hlength, hskips]
    rfl

/-! ## A project -/

/-- What a run comes to in a session. -/
def runIn (invocation : Invocation) (session : Session) :
    Except CommandError (Option (Job (StateM Session))) × Session :=
  (invocation.run : StateM Session (Except CommandError (Option (Job (StateM Session))))) session

/-- Nothing is watched unless that was asked for. -/
theorem runIn_eq_of_toBool (invocation : Invocation) (session : Session)
    (hwatch : invocation.command.selection.watch = false)
    (h : (invocation.runIn session).1.toBool = true) :
    invocation.runIn session = (.ok none, (invocation.runIn session).2) := by
  refine Prod.ext ?_ rfl
  have hrun : invocation.runIn session = _ := run_eq hwatch session
  revert h
  rw [hrun]
  split
  · exact nofun
  split
  · exact nofun
  split
  · exact nofun
  · intro h
    dsimp only at h ⊢
    revert h
    cases Tally.check _ with
    | ok _ => exact fun _ => rfl
    | error error => exact nofun

theorem isUsable_of_length {name : String} (hslash : '/' ∉ name.toList)
    (hlength : 3 ≤ name.toList.length) (hshort : isName name = true)
    (hnull : '\x00' ∉ name.toList) : IsUsable name :=
  ⟨.of_length (List.forall_mem_ne'.mpr hslash) hlength, hshort, hnull⟩

theorem wellFormed_project : project.tree.WellFormed := by
  refine .of_entries ?_ rfl
  simp only [project, List.forall_mem_cons]
  refine ⟨⟨rfl, ?_⟩, ⟨rfl, ?_⟩, ⟨rfl, ?_⟩, ⟨rfl, ?_⟩, ⟨rfl, ?_⟩, ⟨rfl, ?_⟩, ⟨rfl, ?_⟩, nofun⟩
  all_goals exact isUsable_of_length (by decide) (by decide) (by decide) (by decide)

/-- Scripts that were written with force are skipped when they are asked for
again. -/
theorem rerun_skips_forcing :
    forcing.unforced.treeAfter (forcing.runIn project).2 = (forcing.runIn project).2.tree
    ∧ ∃ reports : List Report, reports.map (·.input) = [⟨"./stepMaps/a.stepMap.json"⟩]
      ∧ ∀ report ∈ reports, ∃ existing, report.outcome = .skipped existing := by
  have hinputs : forcing.inputs project = [⟨"./stepMaps/a.stepMap.json"⟩] := by decide +kernel
  obtain ⟨-, htree, reports, hreports, hskipped, -⟩ := rerun_skips wellFormed_project
    rfl rfl (runIn_eq_of_toBool forcing project rfl (by decide +kernel))
  exact ⟨htree, reports, hreports.trans hinputs, hskipped⟩

/-! ## A table that is none -/

/-- A project with a feature only. -/
def fresh : Session where
  tree := {
    entries := [(["a.feature", "features"], .file "Feature: a".toUTF8),
      (["features"], .directory)]
    workDir := [] }
  told := []

/-- The feature is understood, and step maps are kept in a directory that is
called like a selector table. -/
def colliding : Invocation :=
  customary (.steps ⟨false, ["a"], false, false, none, some ⟨"selector-aliases.json"⟩⟩)

theorem wellFormed_fresh : fresh.tree.WellFormed := by
  refine .of_entries ?_ rfl
  simp only [fresh, List.forall_mem_cons]
  refine ⟨⟨rfl, ?_⟩, ⟨rfl, ?_⟩, nofun⟩
  all_goals exact isUsable_of_length (by decide) (by decide) (by decide) (by decide)

/-- **Not every run that has succeeded succeeds again.** -/
theorem not_forall_rerun_succeeds :
    ¬ ∀ (invocation : Invocation) (session after : Session), session.tree.WellFormed →
      invocation.command.selection.watch = false → invocation.command.options.dryRun = false →
      invocation.runIn session = (.ok none, after) →
      (invocation.unforced.runIn after).1.toBool = true := by
  intro h
  have hrun := runIn_eq_of_toBool colliding fresh rfl (by decide +kernel)
  have hrerun := h colliding fresh _ wellFormed_fresh rfl rfl hrun
  have hfails : (colliding.unforced.runIn (colliding.runIn fresh).2).1.toBool = false := by
    decide +kernel
  rw [hrerun] at hfails
  cases hfails

end Invocation

end Playscript
