import Playscript.Proofs.Command.Run
import Playscript.Proofs.Output.Steps

/-!
# Two stages alike

Understanding a feature and writing the scripts of a step map are done in the
same order: drafts are prepared from the text of the input, they are written
together, and what else there is to do is done after that. So the two can be
spoken of as one (`Stage.process_eq`). Preparing looks at the disk only for the
text of the input; on a file tree it is a function of that text
(`Stage.preparedIn`). What differs is when the name of the input is looked at:
before the disk where scripts are written, and behind it where steps are
understood.
-/

namespace Playscript

open FileTree Output

/-- **The text of an input** in a tree. -/
def FileTree.textOf (tree : FileTree) (path : Path) : Except Fault String :=
  match tree.find? path with
  | some (.file _) =>
    match tree.readText path with
    | .ok text => .ok text
    | .error error => .error (.disk error)
  | _ => .error (.notFound path)

/-- **One of the two stages**, with what it knows. -/
inductive Stage where
  /-- Steps are understood and kept as step maps. -/
  | understanding (classifier : Classifier)
  /-- Scripts are written. -/
  | writing (nouns : NounFinder)

namespace Stage

/-- What the names of inputs end in. -/
def suffix : Stage → String
  | understanding _ => Suffix.feature
  | writing _ => Suffix.stepMap

/-- What is written for an input of a name. -/
def outputsOf (layout : Layout) (base : String) : Stage → List Path
  | understanding _ => [layout.stepMapOf base]
  | writing _ => [layout.pageObjectOf base, layout.specOf base]

/-- Why an input is not even looked for. -/
def refusal? (path : Path) : Stage → Option Fault
  | understanding _ => none
  | writing _ =>
    match path.stem? Suffix.stepMap with
    | none => some (.unsupportedInput path Suffix.stepMap)
    | some _ => none

/-- **The name and the drafts** that are made of the text of an input. -/
def made (layout : Layout) (path : Path) (text : String) :
    Stage → Except Fault (String × List Draft)
  | understanding classifier =>
    match Feature.parse path text with
    | .error fault => .error fault
    | .ok feature => .ok (feature.base,
        [(layout.stepMapOf feature.base, (feature.classify classifier).write)])
  | writing nouns =>
    match path.stem? Suffix.stepMap with
    | none => .error (.unsupportedInput path Suffix.stepMap)
    | some base =>
      match StepMap.parse? text with
      | none => .error (.malformedStepMap path)
      | some map =>
        match Page.generate nouns base map with
        | .error cause => .error (.unbuildable cause)
        | .ok units => .ok (base, unitDrafts layout base units)

/-- The drafts of an input in a tree. -/
def preparedIn (layout : Layout) (path : Path) (stage : Stage) (tree : FileTree) :
    Except Fault (String × List Draft) :=
  match stage.refusal? path with
  | some fault => .error fault
  | none =>
    match tree.textOf path with
    | .error fault => .error fault
    | .ok text => stage.made layout path text

section Operations

variable {m : Type → Type} [Monad m] [Disk m]

/-- **Does a stage with an input.** -/
def process (layout : Layout) (options : WriteOptions) (path : Path) :
    Stage → m (Except Fault Report)
  | understanding classifier => classifyFile layout classifier options path
  | writing nouns => generateFile layout nouns options path

/-- Prepares the drafts of an input. -/
def prepare (layout : Layout) (path : Path) (stage : Stage) :
    m (Except Fault (String × List Draft)) :=
  match stage.refusal? path with
  | some fault => return .error fault
  | none => do
    match ← inputText path with
    | .error fault => return .error fault
    | .ok text => return stage.made layout path text

/-- What is done when outputs have been written or left alone. -/
def finish (layout : Layout) (report : Report) : Stage → m (Except Fault Report)
  | understanding _ => return .ok report
  | writing _ => withBase layout report

/-- Writes drafts that are prepared. -/
def complete (layout : Layout) (options : WriteOptions) (path : Path) (stage : Stage) :
    Except Fault (String × List Draft) → m (Except Fault Report)
  | .error fault => return .error fault
  | .ok (base, drafts) => do
    match ← writeOutputs path base drafts options with
    | .error fault => return .error fault
    | .ok report => stage.finish layout report

variable [LawfulMonad m]

/-- **Each stage prepares drafts and writes them.** -/
theorem process_eq (layout : Layout) (options : WriteOptions) (path : Path) (stage : Stage) :
    (stage.process layout options path : m (Except Fault Report))
      = stage.prepare layout path >>= stage.complete layout options path := by
  cases stage with
  | understanding classifier =>
    have hfinish (report : Except Fault Report) :
        (match report with
          | .error fault => pure (.error fault)
          | .ok report => finish layout report (understanding classifier))
          = (pure report : m (Except Fault Report)) := by
      cases report <;> rfl
    show classifyFile layout classifier options path = (inputText path >>= _) >>= _
    rw [classifyFile, Feature.load, bind_assoc, bind_assoc]
    refine bind_congr fun read => ?_
    cases read with
    | error fault =>
      rw [pure_bind, pure_bind]
      rfl
    | ok text =>
      rw [pure_bind, pure_bind, made]
      cases Feature.parse path text with
      | error fault => rfl
      | ok feature =>
        show _ = writeOutputs path feature.base _ options >>= _
        rw [funext hfinish, bind_pure]
  | writing nouns =>
    rw [process, generateFile, prepare, refusal?]
    cases hstem : path.stem? Suffix.stepMap with
    | none =>
      show _ = pure _ >>= _
      rw [pure_bind]
      rfl
    | some base =>
      show StepMap.load path >>= _ = (inputText path >>= _) >>= _
      rw [StepMap.load, bind_assoc, bind_assoc]
      refine bind_congr fun read => ?_
      cases read with
      | error fault =>
        rw [pure_bind, pure_bind]
        rfl
      | ok text =>
        rw [pure_bind, made, hstem]
        dsimp only
        cases StepMap.parse? text with
        | none =>
          rw [pure_bind]
          rfl
        | some map =>
          dsimp only
          rw [pure_bind]
          dsimp only
          cases Page.generate nouns base map <;> rfl

end Operations

/-! ## Preparing -/

variable (layout : Layout) (path : Path) (stage : Stage)

theorem inputText_tree (tree : FileTree) :
    (inputText path : StateM FileTree (Except Fault String)) tree = (tree.textOf path, tree) := by
  have hlook : (Disk.isFile path : StateM FileTree Bool) tree
      = (match tree.find? path with | some (.file _) => true | _ => false, tree) := rfl
  have hread : (Disk.readText path : StateM FileTree (Except DiskError String)) tree
      = (tree.readText path, tree) := rfl
  rw [inputText, run_bind hlook, textOf]
  cases tree.find? path with
  | none => rfl
  | some node =>
    cases node with
    | directory => rfl
    | file bytes =>
      rw [if_pos rfl, run_bind hread]
      dsimp only
      cases tree.readText path <;> rfl

theorem inputText_session (session : Session) :
    (inputText path : StateM Session (Except Fault String)) session
      = (session.tree.textOf path, session) := by
  have hsession : Session.onTree (inputText path) = inputText path := by
    refine Session.carriesAll_onTree.bind rfl fun found => ?_
    split
    · refine Session.carriesAll_onTree.bind rfl fun read => ?_
      cases read <;> rfl
    · rfl
  rw [← hsession]
  exact Session.onTree_of_eq (inputText_tree path session.tree)

/-- **Preparing drafts** changes nothing, where reading the input does not. -/
theorem prepare_of_inputText {σ : Type} [Disk (StateM σ)] {state : σ} {tree : FileTree}
    (h : (inputText path : StateM σ (Except Fault String)) state = (tree.textOf path, state)) :
    (stage.prepare layout path : StateM σ (Except Fault (String × List Draft))) state
      = (stage.preparedIn layout path tree, state) := by
  rw [prepare, preparedIn]
  cases stage.refusal? path with
  | some fault => rfl
  | none =>
    dsimp only
    rw [run_bind h]
    cases tree.textOf path <;> rfl

theorem prepare_tree (tree : FileTree) :
    (stage.prepare layout path : StateM FileTree (Except Fault (String × List Draft))) tree
      = (stage.preparedIn layout path tree, tree) :=
  prepare_of_inputText layout path stage (inputText_tree path tree)

theorem prepare_session (session : Session) :
    (stage.prepare layout path : StateM Session (Except Fault (String × List Draft))) session
      = (stage.preparedIn layout path session.tree, session) :=
  prepare_of_inputText layout path stage (inputText_session path session)

/-! ## What is made of a text -/

variable {layout path stage} {base : String} {drafts : List Draft} {text : String}

/-- **The outputs are named after the input**, whatever its text is. -/
theorem of_made (h : stage.made layout path text = .ok (base, drafts)) :
    path.stem? stage.suffix = some base
      ∧ drafts.map (·.1) = stage.outputsOf layout base := by
  cases stage with
  | understanding classifier =>
    rw [made] at h
    split at h
    · cases h
    · next feature hparse =>
      obtain ⟨rfl, rfl⟩ := Prod.mk.inj (Except.ok.inj h)
      exact ⟨Feature.base_of_parse hparse, rfl⟩
  | writing nouns =>
    rw [made] at h
    split at h
    · cases h
    next name hstem =>
    split at h
    · cases h
    split at h
    · cases h
    · obtain ⟨rfl, rfl⟩ := Prod.mk.inj (Except.ok.inj h)
      exact ⟨hstem, rfl⟩

/-- What is prepared is made of the text of the input. -/
theorem of_preparedIn {tree : FileTree}
    (h : stage.preparedIn layout path tree = .ok (base, drafts)) :
    ∃ text, tree.textOf path = .ok text ∧ stage.made layout path text = .ok (base, drafts) := by
  rw [preparedIn] at h
  split at h
  · cases h
  split at h
  · cases h
  · next text htext => exact ⟨text, htext, h⟩

/-! ## What a stage does to files -/

/-- **A stage does what writing its outputs does**, and writing the base
class. -/
theorem relates_process {R : FileTree → FileTree → Prop} [IsPreorder FileTree R]
    (h : ∀ base, path.stem? stage.suffix = some base → Allows R (stage.outputsOf layout base))
    (hdirectories : AllowsDirectories R)
    (hbase : ∀ tree bytes after,
      tree.writeBytes (layout.pageObjects.join ⟨Page.baseFile⟩) bytes = .ok after → R tree after)
    (options : WriteOptions) : Session.Relates R (stage.process layout options path) := by
  cases stage with
  | understanding classifier =>
    exact relates_classifyFile (fun base hstem text tree =>
      respects_writeAll [(layout.stepMapOf base, text)] (h base hstem) options tree)
      classifier
  | writing nouns =>
    exact relates_generateFile (fun base hstem units tree =>
      respects_writeAll (unitDrafts layout base units) (h base hstem) options tree)
      (fun _ _ _ _ after _ _ => respects_ensureBase hdirectories hbase after) nouns

theorem keepsForm_process (stage : Stage) (layout : Layout) (options : WriteOptions)
    (path : Path) : Session.Relates KeepsForm (stage.process layout options path) :=
  relates_process (fun _ _ => allows_keepsForm _) allowsDirectories_keepsForm
    (fun _ _ _ hwrite h => h.of_writeBytes hwrite) options

end Stage

end Playscript
