import Playscript.Proofs.Command.Rerun
import Playscript.Proofs.Processing.Independent

/-!
# The order of inputs

Two inputs that leave each other alone can be processed in either order: each
comes to the same as it does alone, and the tree is the same in the end
(`Stage.exists_process_comm`). So a batch of inputs that do so pairwise can be
processed in any order (`Stage.perm_processEach`), by induction on how the
order is changed, since it does not matter to the processing of the others how
the entries of a tree are listed.

Inputs leave each other alone when they have different names. An input without
a name has no outputs, but it may be an output of another; of steps that are
understood, such an input is looked for before its name is, so what it is
refused for depends on whether it is there. It must then not be an output.

For a directory that leads up this fails
(`Stage.not_forall_perm_processEach`): whether a target is found through a
directory that is missing depends on whether another input came first and had
it made.
-/

namespace Playscript

open FileTree FileTree.Pair Output

namespace FileTree

/-- **The same is everywhere in two trees**, however their entries are
listed. -/
structure Same (tree other : FileTree) : Prop where
  /-- Paths lead from the same directory. -/
  workDir : other.workDir = tree.workDir
  /-- The same is at each location. -/
  there : ∀ location, other.at? location = tree.at? location

namespace Same

variable {tree other last : FileTree}

theorem refl (tree : FileTree) : Same tree tree :=
  ⟨rfl, fun _ => rfl⟩

theorem symm (h : Same tree other) : Same other tree :=
  ⟨h.workDir.symm, fun location => (h.there location).symm⟩

theorem trans (h : Same tree other) (h' : Same other last) : Same tree last :=
  ⟨h'.workDir.trans h.workDir, fun location => (h'.there location).trans (h.there location)⟩

theorem wellFormed (h : Same tree other) (hform : tree.WellFormed) : other.WellFormed := by
  refine ⟨fun name dir hsome => ?_, fun name dir hsome => ?_, ?_⟩
  · rw [h.there] at hsome ⊢
    exact hform.parents name dir hsome
  · rw [h.there] at hsome
    exact hform.names name dir hsome
  · rw [h.there, h.workDir]
    exact hform.workDir

theorem touches (h : Same tree other) (shared : Location → Node → Prop)
    (places : Location → Prop) : Touches shared places tree other :=
  ⟨h.workDir, fun location _ => .inl (h.there location)⟩

end Same

/-- Two runs begin abreast. -/
theorem Pair.abreast_start {pair : Pair} (hform : pair.start.WellFormed)
    (hform' : pair.start'.WellFormed)
    (hahead : Touches pair.shared pair.theirs pair.start pair.start') :
    pair.Abreast pair.start pair.start' :=
  ⟨hform, hform', .refl _ _ _, .refl _ _ _, hahead, fun _ => .inr ⟨rfl, rfl⟩⟩

/-- **Two runs meet again** when each has been at work before the other, if
neither touches what the other does nor what is shared. -/
theorem Pair.same_of_abreast {shared : Location → Node → Prop} {mine theirs : Location → Prop}
    {tree next next' last last' : FileTree}
    (h : Pair.Abreast ⟨shared, mine, theirs, tree, next'⟩ next last')
    (h' : Pair.Abreast ⟨shared, theirs, mine, tree, next⟩ next' last)
    (hapart : ∀ location, mine location → ¬ theirs location)
    (hmine : ∀ location node, mine location → ¬ shared location node)
    (htheirs : ∀ location node, theirs location → ¬ shared location node) : Same last last' := by
  refine ⟨h.workDir_eq'.trans h'.workDir_eq'.symm, fun location => ?_⟩
  have hspared (hout : ¬ mine location) := h.touched'.spared location hout
  have hspared' (hout : ¬ theirs location) := h'.touched'.spared location hout
  dsimp only at hspared hspared'
  rcases h.follows location with hmeet | ⟨hstill, halike⟩
  · rcases h'.follows location with hmeet' | ⟨-, halike'⟩
    · -- each run meets the other that came before it, so what is here is spared by one of them
      by_cases hout : theirs location
      · rcases hspared fun hm => hapart location hm hout with hsame | ⟨-, node, hshared, -⟩
        · rw [hsame, hmeet']
        · exact absurd hshared (htheirs location node hout)
      rcases hspared' hout with hsame' | ⟨hnone, node, hshared, -⟩
      · rw [hsame', hmeet]
      by_cases hm : mine location
      · exact absurd hshared (hmine location node hm)
      rcases hspared hm with hsame | ⟨-, node, -, hnode⟩
      · rw [hsame, hmeet']
      · rw [hmeet, hnone] at hnode
        cases hnode
    · exact hmeet.trans halike'.symm
  · rcases h'.follows location with hmeet' | ⟨hstill', halike'⟩
    · exact halike.trans hmeet'.symm
    · rw [halike, halike']
      exact hstill'.trans hstill.symm

end FileTree

namespace Stage

variable {stage : Stage} {layout : Layout} {workDir location : Location} {path other : Path}
  {options : WriteOptions} {tree tree' : FileTree}

/-! ## Single inputs -/

/-- **Processing an input comes to the same in trees that are the same**, and
touches nothing but its outputs and what is shared. -/
theorem exists_process_same (hlayout : stage.GoesStraight layout) (hform : tree.WellFormed)
    (hsame : Same tree tree') (hstraight : path.IsStraight) (options : WriteOptions) :
    ∃ value next next',
      (stage.process layout options path : StateM FileTree (Except Fault Report)) tree
          = (value, next)
        ∧ (stage.process layout options path : StateM FileTree (Except Fault Report)) tree'
          = (value, next')
        ∧ Same next next' ∧ next.WellFormed
        ∧ Touches (fun location node => stage.IsShared layout tree.workDir location node)
          (fun location => stage.IsOutput layout tree.workDir path location) tree next := by
  have hnobody : stage.LeftAlone layout tree.workDir path fun _ => False :=
    ⟨fun _ => False.elim, fun _ _ => id, fun _ => id⟩
  have hstart : (stage.pairOf layout path (fun _ => False) tree tree').Abreast tree tree' :=
    abreast_start hform (hsame.wellFormed hform) (hsame.touches _ _)
  obtain ⟨value, next, next', hnext, hnext', habreast, -, -⟩ :=
    agrees_process hstart hlayout hstraight hnobody options
  refine ⟨value, next, next', hnext, hnext', ⟨habreast.ahead.workDir, fun location => ?_⟩,
    habreast.form, habreast.touched⟩
  rcases habreast.follows location with hmeet | ⟨hstill, hstill'⟩
  · exact hmeet
  · rw [hstill, hstill']
    exact hsame.there location

/-! ## Two inputs -/

/-- **Two inputs leave each other alone**: they have different names, and
neither is an output of the other, unless it is refused by its name. -/
structure Apart (layout : Layout) (workDir : Location) (path other : Path) (stage : Stage) :
    Prop where
  /-- Their names are different. -/
  names : ∀ base, path.stem? stage.suffix = some base → other.stem? stage.suffix ≠ some base
  /-- The one is not written by the other. -/
  input : stage.refusal? path = none → ¬ stage.IsOutput layout workDir other (aim workDir path)
  /-- The other is not written by the one. -/
  input' : stage.refusal? other = none → ¬ stage.IsOutput layout workDir path (aim workDir other)

theorem Apart.symm (h : stage.Apart layout workDir path other) :
    stage.Apart layout workDir other path :=
  ⟨fun base hother hpath => h.names base hpath hother, h.input', h.input⟩

theorem Apart.not_isOutput (h : stage.Apart layout workDir path other)
    (houtput : stage.IsOutput layout workDir path location) :
    ¬ stage.IsOutput layout workDir other location := by
  intro hother
  obtain ⟨base, hstem, -⟩ := id houtput
  exact h.names base hstem (stem?_eq_of_isOutput houtput hother ▸ hstem)

theorem Apart.leftAlone (h : stage.Apart layout workDir path other) :
    stage.LeftAlone layout workDir path
      fun location => stage.IsOutput layout workDir other location :=
  ⟨fun _ => isProduct_of_isOutput, fun _ => h.not_isOutput, h.input⟩

/-- **Two inputs that leave each other alone can be processed in either
order.** -/
theorem exists_process_comm (hlayout : stage.GoesStraight layout) (hform : tree.WellFormed)
    (hpath : path.IsStraight) (hother : other.IsStraight)
    (hapart : stage.Apart layout tree.workDir path other) (options : WriteOptions) :
    ∃ value value' next next' last last',
      (stage.process layout options path : StateM FileTree (Except Fault Report)) tree
          = (value, next)
        ∧ (stage.process layout options other : StateM FileTree (Except Fault Report)) next
          = (value', last)
        ∧ (stage.process layout options other : StateM FileTree (Except Fault Report)) tree
          = (value', next')
        ∧ (stage.process layout options path : StateM FileTree (Except Fault Report)) next'
          = (value, last')
        ∧ Same last last' ∧ last.WellFormed ∧ last.workDir = tree.workDir := by
  obtain ⟨value, next, -, hnext, -, -, hnextForm, hnextTouched⟩ :=
    exists_process_same hlayout hform (.refl tree) hpath options
  obtain ⟨value', next', -, hnext', -, -, hnextForm', hnextTouched'⟩ :=
    exists_process_same hlayout hform (.refl tree) hother options
  have hstart : (stage.pairOf layout path
      (fun location => stage.IsOutput layout tree.workDir other location) tree next').Abreast
        tree next' := abreast_start hform hnextForm' hnextTouched'
  obtain ⟨_, _, last', hagain, hlast', habreast, -, -⟩ :=
    agrees_process hstart hlayout hpath hapart.leftAlone options
  obtain ⟨rfl, rfl⟩ := Prod.mk.inj (hnext.symm.trans hagain)
  have hstart' : (stage.pairOf layout other
      (fun location => stage.IsOutput layout tree.workDir path location) tree next).Abreast
        tree next := abreast_start hform hnextForm hnextTouched
  obtain ⟨_, _, last, hagain', hlast, habreast', -, -⟩ :=
    agrees_process hstart' hlayout hother hapart.symm.leftAlone options
  obtain ⟨rfl, rfl⟩ := Prod.mk.inj (hnext'.symm.trans hagain')
  refine ⟨value, value', next, next', last, last', hnext, hlast, hnext', hlast',
    same_of_abreast habreast habreast' (fun _ => hapart.not_isOutput) ?_ ?_, habreast'.form',
    habreast'.workDir_eq'⟩
  · exact fun _ node hm => not_isShared_of_isProduct hlayout.paired (isProduct_of_isOutput hm) node
  · exact fun _ node hm => not_isShared_of_isProduct hlayout.paired (isProduct_of_isOutput hm) node

/-! ## Batches -/

/-- **Does a stage with each of several inputs**, and tells what became of
them. -/
def processEach (layout : Layout) (options : WriteOptions) (inputs : List Path) (stage : Stage) :
    StateM FileTree (List (Path × Except Fault Report)) :=
  inputs.mapM fun input => do return (input, ← stage.process layout options input)

variable {inputs others : List Path}

theorem processEach_cons {value : Except Fault Report} {next last : FileTree}
    {results : List (Path × Except Fault Report)}
    (h : (stage.process layout options path : StateM FileTree (Except Fault Report)) tree
      = (value, next))
    (hrest : stage.processEach layout options inputs next = (results, last)) :
    stage.processEach layout options (path :: inputs) tree
      = ((path, value) :: results, last) := by
  rw [processEach, List.mapM_cons]
  have hfirst : (do return (path, ← stage.process layout options path)
      : StateM FileTree (Path × Except Fault Report)) tree = ((path, value), next) :=
    run_bind h _
  rw [run_bind hfirst]
  exact run_bind hrest _

theorem exists_processEach_same (hlayout : stage.GoesStraight layout) (hform : tree.WellFormed)
    (hsame : Same tree tree') (hstraight : ∀ input ∈ inputs, input.IsStraight)
    (options : WriteOptions) :
    ∃ results last last', stage.processEach layout options inputs tree = (results, last)
      ∧ stage.processEach layout options inputs tree' = (results, last') ∧ Same last last' := by
  induction inputs generalizing tree tree' with
  | nil => exact ⟨[], tree, tree', rfl, rfl, hsame⟩
  | cons input inputs ih =>
    obtain ⟨hinput, hinputs⟩ := List.forall_mem_cons.mp hstraight
    obtain ⟨value, next, next', hnext, hnext', hsameNext, hnextForm, -⟩ :=
      exists_process_same hlayout hform hsame hinput options
    obtain ⟨results, last, last', hlast, hlast', hsameLast⟩ := ih hnextForm hsameNext hinputs
    exact ⟨_, last, last', processEach_cons hnext hlast, processEach_cons hnext' hlast',
      hsameLast⟩

/-- **Inputs that leave each other alone can be processed in any order.** -/
theorem exists_processEach_perm (hlayout : stage.GoesStraight layout) (hperm : inputs.Perm others)
    (hform : tree.WellFormed) (hstraight : ∀ input ∈ inputs, input.IsStraight)
    (hapart : inputs.Pairwise fun input other =>
      stage.Apart layout tree.workDir input other) (options : WriteOptions) :
    ∃ results results' last last', stage.processEach layout options inputs tree = (results, last)
      ∧ stage.processEach layout options others tree = (results', last')
      ∧ results.Perm results' ∧ Same last last' := by
  induction hperm generalizing tree with
  | nil => exact ⟨[], [], tree, tree, rfl, rfl, .refl _, .refl tree⟩
  | cons input hperm ih =>
    obtain ⟨hinput, hinputs⟩ := List.forall_mem_cons.mp hstraight
    obtain ⟨value, next, -, hnext, -, -, hnextForm, htouched⟩ :=
      exists_process_same hlayout hform (.refl tree) hinput options
    obtain ⟨results, results', last, last', hlast, hlast', hresults, hsame⟩ :=
      ih hnextForm hinputs (htouched.workDir ▸ (List.pairwise_cons.mp hapart).2)
    exact ⟨_, _, last, last', processEach_cons hnext hlast, processEach_cons hnext hlast',
      hresults.cons _, hsame⟩
  | swap first second inputs =>
    obtain ⟨hsecond, hrest⟩ := List.forall_mem_cons.mp hstraight
    obtain ⟨hfirst, hinputs⟩ := List.forall_mem_cons.mp hrest
    obtain ⟨value, value', next, next', middle, middle', hnext, hmiddle, hnext', hmiddle',
        hsame, hmiddleForm, -⟩ :=
      exists_process_comm hlayout hform hsecond hfirst
        ((List.pairwise_cons.mp hapart).1 first List.mem_cons_self) options
    obtain ⟨results, last, last', hlast, hlast', hsameLast⟩ :=
      exists_processEach_same hlayout hmiddleForm hsame hinputs options
    exact ⟨_, _, last, last', processEach_cons hnext (processEach_cons hmiddle hlast),
      processEach_cons hnext' (processEach_cons hmiddle' hlast'), .swap _ _ _, hsameLast⟩
  | trans hperm hperm' ih ih' =>
    obtain ⟨results, results', last, last', hlast, hlast', hresults, hsame⟩ :=
      ih hform hstraight hapart
    obtain ⟨_, results'', _, last'', hagain, hlast'', hresults', hsame'⟩ :=
      ih' hform (fun input hm => hstraight input (hperm.mem_iff.mpr hm))
        ((hperm.pairwise_iff Apart.symm).mp hapart)
    obtain ⟨rfl, rfl⟩ := Prod.mk.inj (hlast'.symm.trans hagain)
    exact ⟨results, results'', last, last'', hlast, hlast'', hresults.trans hresults',
      hsame.trans hsame'⟩

/-! ## Inputs with different names -/

/-- What is written ends in names under which the stage writes. -/
theorem endsIn_writes_of_isOutput (h : stage.IsOutput layout workDir path location) :
    EndsIn stage.writes location := by
  obtain ⟨base, hstem, ⟨target, hm, rfl⟩ | ⟨target, hm, rfl⟩⟩ := h
  · obtain ⟨name, hname, -⟩ := (isNamedTo_outputsOf stage hstem target hm).name
    obtain ⟨dir, -, hstaging⟩ := exists_aim_eq_cons workDir hname
    rw [hstaging]
    exact ⟨_, rfl, writes_of_isHidden (isHidden_staging name)⟩
  · obtain ⟨name, hname, hwrites, -⟩ := (isNamedTo_outputsOf stage hstem target hm).name
    obtain ⟨dir, haim, -⟩ := exists_aim_eq_cons workDir hname
    rw [haim]
    exact ⟨name, rfl, hwrites⟩

/-- **Inputs of different names leave each other alone**, if those without a
name are no outputs. -/
theorem pairwise_apart (hnames : (inputs.filterMap (·.stem? stage.suffix)).Nodup)
    (hnameless : ∀ input ∈ inputs, stage.refusal? input = none →
      input.stem? stage.suffix = none → ∀ other ∈ inputs,
        ¬ stage.IsOutput layout workDir other (aim workDir input)) :
    inputs.Pairwise fun input other => stage.Apart layout workDir input other := by
  have hinput : ∀ input ∈ inputs, stage.refusal? input = none → ∀ other ∈ inputs,
      ¬ stage.IsOutput layout workDir other (aim workDir input) := by
    intro input hm hread other hother
    cases hstem : input.stem? stage.suffix with
    | none => exact hnameless input hm hread hstem other hother
    | some base => exact fun h => not_endsIn_writes workDir hstem (endsIn_writes_of_isOutput h)
  refine (List.pairwise_filterMap.mp hnames).imp_of_mem fun {input other} hm hm' hdiffer => ?_
  exact ⟨fun base hbase hbase' => hdiffer base hbase base hbase' rfl,
    fun hread => hinput input hm hread other hm', fun hread => hinput other hm' hread input hm⟩

/-- **The order of inputs does not matter.** Where no directory of outputs
leads up, a stage comes to the same with each of its inputs in any order, and
leaves the same tree, if the inputs have different names and do not lead up.
Inputs without a name that are not refused for it must be no outputs. -/
theorem perm_processEach (invocation : Invocation) (stage : Stage) (options : WriteOptions)
    (hform : tree.WellFormed)
    (hout : ∀ dir ∈ stage.outputDirs invocation.layout, dir.IsStraight)
    (hperm : inputs.Perm others) (hstraight : ∀ input ∈ inputs, input.IsStraight)
    (hnames : (inputs.filterMap (·.stem? stage.suffix)).Nodup)
    (hnameless : ∀ input ∈ inputs, stage.refusal? input = none →
      input.stem? stage.suffix = none → ∀ other ∈ inputs,
        ¬ stage.IsOutput invocation.layout tree.workDir other (aim tree.workDir input)) :
    let each (inputs : List Path) := stage.processEach invocation.layout options inputs tree
    (each inputs).1.Perm (each others).1 ∧ Same (each inputs).2 (each others).2 := by
  intro each
  obtain ⟨results, results', last, last', hlast, hlast', hresults, hsame⟩ :=
    exists_processEach_perm ⟨invocation.isPaired_layout, hout⟩ hperm hform hstraight
      (pairwise_apart hnames hnameless) options
  have heach : each inputs = (results, last) := hlast
  have heach' : each others = (results', last') := hlast'
  rw [heach, heach']
  exact ⟨hresults, hsame⟩

/-! ## Two features -/

/-- A tree with two features, and with step maps beside their directory. -/
def twins : FileTree where
  entries := [(["a.stepMap.json"], .file "mine".toUTF8), (["b.stepMap.json"], .file "mine".toUTF8),
    (["a.feature", "features"], .file "Feature: a".toUTF8),
    (["b.feature", "features"], .file "Feature: b".toUTF8), (["features"], .directory)]
  workDir := []

/-- The two features, in order. -/
def twinInputs : List Path := [⟨"./features/a.feature"⟩, ⟨"./features/b.feature"⟩]

/-- Steps are understood with nothing but what is known without being told. -/
def plainly : Stage := .understanding ⟨Selectors.builtin, Lexicon.nouns⟩

theorem wellFormed_twins : twins.WellFormed := by
  refine .of_entries ?_ rfl
  simp only [twins, List.forall_mem_cons]
  refine ⟨⟨rfl, ?_⟩, ⟨rfl, ?_⟩, ⟨rfl, ?_⟩, ⟨rfl, ?_⟩, ⟨rfl, ?_⟩, nofun⟩
  all_goals exact Invocation.isUsable_of_length (by decide) (by decide) (by decide) (by decide)

theorem stem?_ne_none_of_twinInputs :
    ∀ input ∈ twinInputs, input.stem? plainly.suffix ≠ none := by
  decide +kernel

theorem perm_processEach_twins :
    let each (inputs : List Path) :=
      plainly.processEach Invocation.understanding.layout ⟨false, false⟩ inputs twins
    (each twinInputs).1.Perm (each twinInputs.reverse).1
      ∧ Same (each twinInputs).2 (each twinInputs.reverse).2 := by
  have hnone : ∀ input ∈ twinInputs, .up ∉ input.components := by decide +kernel
  exact perm_processEach Invocation.understanding plainly ⟨false, false⟩ wellFormed_twins
    (by decide +kernel) (List.reverse_perm _).symm
    (fun input hm => Path.isStraight_of_not_mem (hnone input hm)) (by decide +kernel)
    fun input hm _ hnameless => absurd hnameless (stem?_ne_none_of_twinInputs input hm)

/-- **The order of inputs may matter** where a directory of outputs leads up
behind a name: the first input has the directory made that is missing, and so
the output of the second is found. -/
theorem not_forall_perm_processEach :
    ¬ ∀ (invocation : Invocation) (stage : Stage) (options : WriteOptions) (tree : FileTree)
      (inputs others : List Path), tree.WellFormed → inputs.Perm others →
      (∀ input ∈ inputs, .up ∉ input.components) →
      (inputs.filterMap (·.stem? stage.suffix)).Nodup →
      (∀ input ∈ inputs, input.stem? stage.suffix ≠ none) →
      let each (inputs : List Path) := stage.processEach invocation.layout options inputs tree
      (each inputs).1.Perm (each others).1 ∧ Same (each inputs).2 (each others).2 := by
  intro h
  obtain ⟨hperm, -⟩ := h Invocation.detouring plainly ⟨false, false⟩ twins twinInputs
    twinInputs.reverse wellFormed_twins (List.reverse_perm _).symm (by decide +kernel)
    (by decide +kernel) stem?_ne_none_of_twinInputs
  have hskipped : (⟨"./features/a.feature"⟩,
      .ok ⟨⟨"./features/a.feature"⟩, "a", .skipped ⟨"new/../a.stepMap.json"⟩⟩)
        ∈ (plainly.processEach Invocation.detouring.layout ⟨false, false⟩
          twinInputs.reverse twins).1 := by
    decide +kernel
  have hwritten : (⟨"./features/a.feature"⟩,
      .ok ⟨⟨"./features/a.feature"⟩, "a", .skipped ⟨"new/../a.stepMap.json"⟩⟩)
        ∉ (plainly.processEach Invocation.detouring.layout ⟨false, false⟩ twinInputs twins).1 := by
    decide +kernel
  exact hwritten (hperm.mem_iff.mpr hskipped)

end Stage

end Playscript
