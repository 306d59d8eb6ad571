import Playscript.Proofs.FileTree.Places
import Playscript.Proofs.Session.Effects

/-!
# What a run does to files

A run goes from input to input, and each is processed by writing outputs
together. What is said of the writing is said here of the run: a relation
between trees that is reflexive and transitive, and holds where outputs of
an input are written, holds between the tree before the run and the tree
after it (`Invocation.relates_run`). Which outputs these are is known
before the run, since they are named after the inputs
(`Invocation.targets`).

Where both outputs of a step map are written, the base class of page objects
is seen to. That is the only thing written under a condition which depends on
what was written before, so it is asked for apart
(`relates_generateFile`).
-/

namespace Playscript

open FileTree Output Session

variable {R : FileTree → FileTree → Prop} [IsPreorder FileTree R]

/-! ## Processing single inputs -/

theorem Feature.base_of_parse {path : Path} {text : String} {feature : Feature}
    (h : Feature.parse path text = .ok feature) :
    path.stem? Suffix.feature = some feature.base := by
  rw [Feature.parse] at h
  split at h
  · cases h
  next base hstem =>
  rw [hstem]
  split at h
  · cases h
  next document hdocument =>
  rw [Feature.ofDocument] at h
  cases hrepeated : firstRepeated? (document.allScenarios.map (·.name)) with
  | some name =>
    rw [hrepeated] at h
    cases h
  | none =>
    rw [hrepeated] at h
    obtain rfl := Except.ok.inj h
    rfl

/-- A feature is named after its file. -/
theorem Feature.base_of_load {path : Path} {session : Session} {feature : Feature}
    (h : ((Feature.load path : StateM Session (Except Fault Feature)) session).1 = .ok feature) :
    path.stem? Suffix.feature = some feature.base := by
  rw [Feature.load, (readsOnly_inputText path).run_bind] at h
  cases hread : ((inputText path : StateM Session (Except Fault String)) session).1 with
  | error fault =>
    rw [hread] at h
    cases h
  | ok text =>
    rw [hread] at h
    exact base_of_parse h

section Outputs

variable {drafts : List Draft} {options : WriteOptions} {session : Session} {after : FileTree}

/-- What becomes of drafts is reported. -/
theorem writeOutputs_of_ok {outcome : Outcome}
    (h : (writeAll drafts options : StateM FileTree (Except DiskError Outcome)) session.tree
      = (.ok outcome, after)) (input : Path) (base : String) :
    (writeOutputs input base drafts options : StateM Session (Except Fault Report)) session
      = (.ok ⟨input, base, outcome⟩, { session with tree := after }) := by
  rw [writeOutputs, ← onTree_writeAll, run_bind (onTree_of_eq h)]
  rfl

theorem writeOutputs_of_error {error : DiskError}
    (h : (writeAll drafts options : StateM FileTree (Except DiskError Outcome)) session.tree
      = (.error error, after)) (input : Path) (base : String) :
    (writeOutputs input base drafts options : StateM Session (Except Fault Report)) session
      = (.error (.disk error), { session with tree := after }) := by
  rw [writeOutputs, ← onTree_writeAll, run_bind (onTree_of_eq h)]
  rfl

/-- Where outputs were written, so is the base class. -/
theorem withBase_of_written {layout : Layout} {report : Report} {paths : List Path}
    (hreport : report.outcome = .written paths) {made : Except DiskError Bool}
    (h : (ensureBase layout.pageObjects : StateM FileTree (Except DiskError Bool)) session.tree
      = (made, after)) :
    ((withBase layout report : StateM Session (Except Fault Report)) session).2
      = { session with tree := after } := by
  rw [withBase, hreport]
  dsimp only
  rw [← onTree_ensureBase, run_bind (onTree_of_eq h)]
  cases made <;> rfl

end Outputs

theorem relates_writeOutputs {drafts : List Draft} {options : WriteOptions}
    (h : ∀ tree, R tree
      ((writeAll drafts options : StateM FileTree (Except DiskError Outcome)) tree).2)
    (input : Path) (base : String) : Relates R (writeOutputs input base drafts options) := by
  rw [writeOutputs, ← onTree_writeAll]
  refine .bind (.onTree h) fun written => ?_
  cases written <;> exact .pure _

/-- **A feature file is processed by writing its step map.** -/
theorem relates_classifyFile {layout : Layout} {options : WriteOptions} {path : Path}
    (h : ∀ base, path.stem? Suffix.feature = some base → ∀ text tree, R tree
      ((writeAll [(layout.stepMapOf base, text)] options
        : StateM FileTree (Except DiskError Outcome)) tree).2)
    (classifier : Classifier) : Relates R (classifyFile layout classifier options path) := by
  intro session
  rw [classifyFile, (readsOnly_loadFeature path).run_bind]
  cases hload : ((Feature.load path : StateM Session (Except Fault Feature)) session).1 with
  | error fault => exact refl_of R _
  | ok feature =>
    exact relates_writeOutputs (h feature.base (Feature.base_of_load hload) _) path _ session

/-- **Outputs with the base class behind them.** The base class is seen to
in the tree that the outputs have left. -/
theorem relates_writeOutputs_withBase {layout : Layout} {drafts : List Draft}
    {options : WriteOptions}
    (h : ∀ tree, R tree
      ((writeAll drafts options : StateM FileTree (Except DiskError Outcome)) tree).2)
    (hbase : ∀ tree after paths,
      (writeAll drafts options : StateM FileTree (Except DiskError Outcome)) tree
        = (.ok (.written paths), after) →
      R after ((ensureBase layout.pageObjects
        : StateM FileTree (Except DiskError Bool)) after).2)
    (input : Path) (base : String) :
    Relates R (do
      match ← writeOutputs input base drafts options with
      | .error fault => return .error fault
      | .ok report => withBase layout report) := by
  intro session
  rcases hwrite : (writeAll drafts options
    : StateM FileTree (Except DiskError Outcome)) session.tree with ⟨written, after⟩
  have hfirst := h session.tree
  rw [hwrite] at hfirst
  refine trans_of R hfirst ?_
  cases written with
  | error error =>
    rw [run_bind (writeOutputs_of_error hwrite input base)]
    exact refl_of R after
  | ok outcome =>
    rw [run_bind (writeOutputs_of_ok hwrite input base)]
    cases outcome with
    | written paths =>
      rcases hensure : (ensureBase layout.pageObjects
        : StateM FileTree (Except DiskError Bool)) after with ⟨made, last⟩
      have hlast := hbase session.tree after paths hwrite
      have hwith : ((withBase layout ⟨input, base, .written paths⟩
          : StateM Session (Except Fault Report)) ⟨after, session.told⟩).2
            = ⟨last, session.told⟩ := withBase_of_written rfl hensure
      rw [hensure] at hlast
      dsimp only
      rw [hwith]
      exact hlast
    | skipped existing => exact refl_of R after
    | preview paths => exact refl_of R after

/-- **A step map file is processed by writing the two outputs**, and by
writing the base class where these were written. -/
theorem relates_generateFile {layout : Layout} {options : WriteOptions} {path : Path}
    (h : ∀ base, path.stem? Suffix.stepMap = some base → ∀ units tree, R tree
      ((writeAll (unitDrafts layout base units) options
        : StateM FileTree (Except DiskError Outcome)) tree).2)
    (hbase : ∀ base, path.stem? Suffix.stepMap = some base → ∀ units tree after paths,
      (writeAll (unitDrafts layout base units) options
        : StateM FileTree (Except DiskError Outcome)) tree = (.ok (.written paths), after) →
      R after ((ensureBase layout.pageObjects
        : StateM FileTree (Except DiskError Bool)) after).2)
    (nouns : NounFinder) : Relates R (generateFile layout nouns options path) := by
  rw [generateFile]
  split
  · exact .pure _
  next base hstem =>
  refine .bind (.of_readsOnly (readsOnly_loadStepMap path)) fun loaded => ?_
  cases loaded with
  | error fault => exact .pure _
  | ok map =>
    dsimp only
    split
    · exact .pure _
    · next units hunits =>
      exact relates_writeOutputs_withBase (h base hstem units) (hbase base hstem units) path base

/-! ## What a run writes -/

namespace Invocation

/-- The directory of the inputs. -/
def inputDir (invocation : Invocation) : Path :=
  match invocation.command with
  | .steps _ => invocation.layout.features
  | .tests _ _ _ => invocation.layout.stepMaps

/-- The suffix of the inputs. -/
def inputSuffix (invocation : Invocation) : String :=
  match invocation.command with
  | .steps _ => Suffix.feature
  | .tests _ _ _ => Suffix.stepMap

/-- **The inputs that are selected**; none when they cannot be. -/
def inputs (invocation : Invocation) (session : Session) : List Path :=
  let selection := invocation.command.selection
  let selected : StateM Session (Except Fault (List Path)) :=
    Inputs.select invocation.inputDir invocation.inputSuffix selection.all selection.files
  match (selected session).1 with
  | .ok inputs => inputs
  | .error _ => []

/-- The job of an invocation in a session. -/
def jobIn (invocation : Invocation) (session : Session) : Except Fault (Job (StateM Session)) :=
  let found : StateM Session (Except Fault (Job (StateM Session))) := invocation.job
  (found session).1

/-- **What a run leaves behind.** -/
def treeAfter (invocation : Invocation) (session : Session) : FileTree :=
  let run : StateM Session (Except CommandError (Option (Job (StateM Session)))) := invocation.run
  (run session).2.tree

/-- What is written for an input of a name. -/
def outputsOf (invocation : Invocation) (base : String) : List Path :=
  match invocation.command with
  | .steps _ => [invocation.layout.stepMapOf base]
  | .tests _ _ _ => [invocation.layout.pageObjectOf base, invocation.layout.specOf base]

/-- What is written for an input; nothing when it is not named as it must
be. -/
def outputsFor (invocation : Invocation) (input : Path) : List Path :=
  ((input.stem? invocation.inputSuffix).map invocation.outputsOf).getD []

/-- **What a run may write**, the base class and hidden siblings apart. -/
def targets (invocation : Invocation) (session : Session) : List Path :=
  (invocation.inputs session).flatMap invocation.outputsFor

/-- Where the base class is. -/
def basePath (invocation : Invocation) : Path :=
  invocation.layout.pageObjects.join ⟨Page.baseFile⟩

variable {invocation : Invocation} {session : Session} {job : Job (StateM Session)}

theorem job_eq (invocation : Invocation) (session : Session) :
    (invocation.job : StateM Session (Except Fault (Job (StateM Session)))) session
      = (invocation.jobIn session, session) :=
  Prod.ext rfl (readsOnly_job invocation session)

/-- Where steps are understood, the job has the selectors that can be loaded. -/
theorem jobIn_steps {selection : Selection} (h : invocation.command = .steps selection)
    (session : Session) :
    invocation.jobIn session
      = ((Selectors.load invocation.layout
          : StateM Session (Except Fault Selectors)) session).1.map fun selectors =>
        ⟨invocation.layout.features, Suffix.feature,
          classifyFile invocation.layout ⟨selectors, Lexicon.nouns⟩⟩ := by
  rw [jobIn, Invocation.job, h]
  dsimp only
  rw [(readsOnly_loadSelectors _).run_bind]
  cases ((Selectors.load invocation.layout
    : StateM Session (Except Fault Selectors)) session).1 <;> rfl

/-- Where scripts are written, nothing is loaded. -/
theorem jobIn_tests {selection : Selection} {dryRun : Bool} {dir : Option Path}
    (h : invocation.command = .tests selection dryRun dir) (session : Session) :
    invocation.jobIn session
      = .ok ⟨invocation.layout.stepMaps, Suffix.stepMap,
        generateFile invocation.layout Lexicon.nouns⟩ := by
  rw [jobIn, Invocation.job, h]
  rfl

/-- **There are two kinds of jobs.** -/
theorem job_cases (h : invocation.jobIn session = .ok job) :
    (∃ selection classifier, invocation.command = .steps selection ∧
      job = ⟨invocation.layout.features, Suffix.feature,
        classifyFile invocation.layout classifier⟩)
    ∨ ∃ selection dryRun dir, invocation.command = .tests selection dryRun dir ∧
      job = ⟨invocation.layout.stepMaps, Suffix.stepMap,
        generateFile invocation.layout Lexicon.nouns⟩ := by
  cases hcommand : invocation.command with
  | steps selection =>
    rw [jobIn_steps hcommand] at h
    cases hload : ((Selectors.load invocation.layout
        : StateM Session (Except Fault Selectors)) session).1 with
    | error fault =>
      rw [hload] at h
      cases h
    | ok selectors =>
      rw [hload] at h
      exact .inl ⟨selection, _, rfl, (Except.ok.inj h).symm⟩
  | tests selection dryRun dir =>
    rw [jobIn_tests hcommand] at h
    exact .inr ⟨selection, dryRun, dir, rfl, (Except.ok.inj h).symm⟩

/-- A job has the inputs of its command. -/
theorem of_job (h : invocation.jobIn session = .ok job) :
    job.dir = invocation.inputDir ∧ job.suffix = invocation.inputSuffix := by
  rcases job_cases h with ⟨_, _, hcommand, rfl⟩ | ⟨_, _, _, hcommand, rfl⟩
  · rw [inputDir, inputSuffix, hcommand]
    exact ⟨rfl, rfl⟩
  · rw [inputDir, inputSuffix, hcommand]
    exact ⟨rfl, rfl⟩

/-- **A run does what processing does with its inputs.** -/
theorem relates_run
    (h : ∀ job, invocation.jobIn session = .ok job → ∀ input ∈ invocation.inputs session,
      Relates R (job.process invocation.command.options input)) :
    R session.tree (invocation.treeAfter session) := by
  rw [treeAfter, Invocation.run]
  split
  · exact refl_of R _
  rw [run_bind (job_eq invocation session)]
  cases hjob : invocation.jobIn session with
  | error fault => exact refl_of R _
  | ok job =>
    dsimp only
    rw [(readsOnly_select _ _ _ _).run_bind]
    obtain ⟨hdir, hsuffix⟩ := of_job hjob
    have hprocess := h job hjob
    rw [inputs] at hprocess
    rw [← hdir, ← hsuffix] at hprocess
    cases hselect : ((Inputs.select job.dir job.suffix invocation.command.selection.all
        invocation.command.selection.files
        : StateM Session (Except Fault (List Path))) session).1 with
    | error fault => exact refl_of R _
    | ok selected =>
      rw [hselect] at hprocess
      refine (Relates.bind (relates_runOn hprocess) fun tally => ?_) session
      split
      · exact relates_beginWatch job
      · exact .pure _

end Invocation

end Playscript
