import Playscript.Proofs.Command.Run
import Playscript.Proofs.Output.Existing
import Playscript.Proofs.Path.Names

/-!
# What a run does not replace

What was written may be edited by hand before the program is run again, and a
run should not destroy that. A dry run leaves all as it was, and the base
class is kept in any run. Without force every file is kept that a target
leads to, if the target finds it when the run begins
(`Invocation.run_keeps_files`). The hidden siblings of targets are another
matter, since they are made anew and then moved.

That targets must find the file is no formality. `new/../a.stepMap.json` and
`a.stepMap.json` are one place; but while `new` is missing, nothing is found
at the first of them. So nothing seems to be in the way of writing, which
begins with making `new`, and then ends by replacing the file
(`Invocation.not_forall_kept`).

The base class needs no such condition. Its name is shorter than that of any
output, and when it is looked for, a page object has just been put beside it
by a path which differs in the last name only.
-/

namespace Playscript

namespace Invocation

open FileTree Output Session

variable {invocation : Invocation} {session : Session} {job : Job (StateM Session)}
  {location : Location}

/-! ## Dry runs -/

/-- **Processing an input in a dry run changes nothing.** -/
theorem stays_process (h : invocation.jobIn session = .ok job) {options : WriteOptions}
    (hdry : options.dryRun = true) (input : Path) :
    Relates (fun before after => before = after) (job.process options input) := by
  rcases job_cases h with ⟨_, classifier, _, rfl⟩ | ⟨_, _, _, _, rfl⟩
  · show Relates _ (classifyFile invocation.layout classifier options input)
    refine relates_classifyFile (fun base _ text tree => ?_) classifier
    obtain ⟨outcome, hpreview, -⟩ := exists_writeAll_dryRun
      [(invocation.layout.stepMapOf base, text)] hdry tree
    rw [hpreview]
  · show Relates _ (generateFile invocation.layout Lexicon.nouns options input)
    refine relates_generateFile (fun base _ units tree => ?_)
      (fun base _ units tree after paths hwritten => ?_) Lexicon.nouns
    · obtain ⟨outcome, hpreview, -⟩ := exists_writeAll_dryRun
        (unitDrafts invocation.layout base units) hdry tree
      rw [hpreview]
    · obtain ⟨outcome, hpreview, hnone⟩ := exists_writeAll_dryRun
        (unitDrafts invocation.layout base units) hdry tree
      rw [hpreview] at hwritten
      exact absurd (Except.ok.inj (Prod.mk.inj hwritten).1) (hnone paths)

/-! ## Sheltered files -/

theorem outputsFor_eq {input : Path} {base : String}
    (h : input.stem? invocation.inputSuffix = some base) :
    invocation.outputsFor input = invocation.outputsOf base := by
  rw [outputsFor, h]
  rfl

theorem isEntry_baseFile : Path.IsEntry Page.baseFile :=
  .of_length (List.forall_mem_ne'.mpr (by decide)) (by decide)

/-- **Processing an input keeps what is sheltered from its outputs.** -/
theorem keeps_process (h : invocation.jobIn session = .ok job) (options : WriteOptions)
    (input : Path) :
    Relates (Keeps (invocation.outputsFor input) options.force location)
      (job.process options input) := by
  have hstem' : ∀ base, input.stem? job.suffix = some base →
      input.stem? invocation.inputSuffix = some base := fun base hstem =>
    (of_job h).2 ▸ hstem
  rcases job_cases h with ⟨_, classifier, hcommand, rfl⟩ | ⟨_, _, _, hcommand, rfl⟩
  · show Relates _ (classifyFile invocation.layout classifier options input)
    refine relates_classifyFile (fun base hstem text tree => ?_) classifier
    rw [outputsFor_eq (hstem' base hstem), outputsOf, hcommand]
    exact keeps_writeAll [(invocation.layout.stepMapOf base, text)] options tree
  · show Relates _ (generateFile invocation.layout Lexicon.nouns options input)
    refine relates_generateFile (fun base hstem units tree => ?_)
      (fun base hstem units tree after paths hwritten => ?_) Lexicon.nouns
    · rw [outputsFor_eq (hstem' base hstem), outputsOf, hcommand]
      exact keeps_writeAll (unitDrafts invocation.layout base units) options tree
    · -- the page object is beside the base class, and can be followed by now
      obtain ⟨place, hplace⟩ := exists_locate_of_writeAll hwritten
        (invocation.layout.pageObjectOf base) List.mem_cons_self
      obtain ⟨place, hplace⟩ := exists_locate_join _
        (Path.isEntry_of_stem? hstem (by decide) (by decide)) isEntry_baseFile (by decide)
        (by decide) hplace
      exact keeps_ensureBase hplace

/-- **A run keeps what is sheltered from its targets.** -/
theorem keeps_run (invocation : Invocation) (session : Session) (location : Location) :
    Keeps (invocation.targets session) invocation.command.options.force location session.tree
      (invocation.treeAfter session) := by
  refine relates_run fun job hjob input hm session => ?_
  exact (keeps_process hjob invocation.command.options input session).of_subset
    fun target ht => List.mem_flatMap_of_mem hm ht

/-! ## What is never harmed -/

/-- **An output has a longer name than the base class.** -/
theorem exists_of_mem_targets {target : Path} (h : target ∈ invocation.targets session) :
    ∃ (dir : Path) (name : String), target = dir.join ⟨name⟩ ∧ Path.IsEntry name
      ∧ Page.baseFile.toList.length < name.toList.length := by
  obtain ⟨input, -, hm⟩ := List.mem_flatMap.mp h
  rw [outputsFor] at hm
  cases hstem : input.stem? invocation.inputSuffix with
  | none =>
    rw [hstem] at hm
    cases hm
  | some base =>
    rw [hstem, Option.map_some, Option.getD_some, outputsOf] at hm
    obtain ⟨dir, suffix, htarget, hslash, hlength⟩ : ∃ (dir : Path) (suffix : String),
        target = dir.join ⟨base ++ suffix⟩ ∧ '/' ∉ suffix.toList
          ∧ Page.baseFile.toList.length < suffix.toList.length := by
      split at hm
      · exact ⟨_, _, List.mem_singleton.mp hm, by decide, by decide⟩
      · rcases List.mem_pair.mp hm with htarget | htarget
        · exact ⟨_, _, htarget, by decide, by decide⟩
        · exact ⟨_, _, htarget, by decide, by decide⟩
    have hlong : 3 ≤ Page.baseFile.toList.length := by decide
    refine ⟨dir, _, htarget, Path.isEntry_of_stem? hstem hslash (by omega), ?_⟩
    rw [String.toList_append, List.length_append]
    omega

/-- **The base class is sheltered**, with or without force. -/
theorem sheltered_base {bytes : ByteArray}
    (h : session.tree.at? (aim session.tree.workDir invocation.basePath) = some (.file bytes))
    (force : Bool) :
    Sheltered (invocation.targets session) force (aim session.tree.workDir invocation.basePath)
      session.tree := by
  have hbase : aim session.tree.workDir invocation.basePath
      = Page.baseFile :: aim session.tree.workDir invocation.layout.pageObjects :=
    aim_join _ _ isEntry_baseFile
  refine ⟨⟨bytes, h⟩, ?_, fun target hm haim => ?_⟩
  · rintro ⟨target, hm, haim⟩
    obtain ⟨dir, name, rfl, hentry, hlength⟩ := exists_of_mem_targets hm
    obtain ⟨_, -, hstaging⟩ :=
      exists_aim_eq_cons session.tree.workDir (Path.fileName?_join dir hentry)
    rw [hbase, hstaging] at haim
    have hsame := congrArg (·.toList.length) (List.cons.inj haim).1
    simp only [length_staging] at hsame
    omega
  · obtain ⟨dir, name, rfl, hentry, hlength⟩ := exists_of_mem_targets hm
    rw [hbase, aim_join _ _ hentry] at haim
    rw [(List.cons.inj haim).1] at hlength
    exact absurd hlength (lt_irrefl _)

/-- **No run destroys what is there.** A dry run leaves the tree as it was.
Without force, a file keeps its contents that is no hidden sibling of a
target and that all targets find that lead to it. With or without force, the
base class keeps its contents where it is there. -/
theorem run_keeps_files (invocation : Invocation) (session : Session) :
    let after := invocation.treeAfter session
    (invocation.command.options.dryRun = true → after = session.tree)
    ∧ (invocation.command.options.force = false → ∀ location bytes,
        session.tree.at? location = some (.file bytes) →
        ¬ IsStaging session.tree.workDir (invocation.targets session) location →
        (∀ target ∈ invocation.targets session, aim session.tree.workDir target = location →
          (session.tree.find? target).isSome) →
        after.at? location = some (.file bytes))
    ∧ ∀ bytes,
        session.tree.at? (aim session.tree.workDir invocation.basePath) = some (.file bytes) →
        after.at? (aim session.tree.workDir invocation.basePath) = some (.file bytes) := by
  intro after
  have hkeeps := keeps_run invocation session
  refine ⟨fun hdry => ?_, fun hforce location bytes hfile hstaging hfound => ?_,
    fun bytes hfile => ?_⟩
  · exact (relates_run fun job hjob input _ => stays_process hjob hdry input).symm
  · refine (hkeeps location ⟨⟨bytes, hfile⟩, hstaging, fun target hm haim => ?_⟩).at?_eq_file
      (not_not_intro rfl) hfile
    exact ⟨hforce, hfound target hm haim⟩
  · exact (hkeeps _ (sheltered_base hfile _)).at?_eq_file (not_not_intro rfl) hfile

/-! ## A project -/

/-- A project with a feature, its step map and the base class. -/
def project : Session where
  tree := {
    entries := [(["a.feature", "features"], .file "Feature: a".toUTF8),
      (["features"], .directory),
      (["a.stepMap.json", "stepMaps"], .file "\x7b\x7d".toUTF8),
      (["stepMaps"], .directory),
      (["page.js", "pageobjects", "tests"], .file "mine".toUTF8),
      (["pageobjects", "tests"], .directory),
      (["tests"], .directory)]
    workDir := [] }
  told := []

/-- An invocation from the directory of a project. -/
def customary (command : Command) : Invocation :=
  ⟨.normal, .automatic, ⟨"."⟩, command⟩

/-- The feature is understood. -/
def understanding : Invocation :=
  customary (.steps ⟨false, ["a"], false, false, none, none⟩)

/-- The scripts are written with force. -/
def forcing : Invocation :=
  customary (.tests ⟨false, ["a"], true, false, none, none⟩ false none)

/-- It is only said that they would be. -/
def trying : Invocation :=
  customary (.tests ⟨false, ["a"], true, false, none, none⟩ true none)

theorem run_keeps_files_project :
    trying.treeAfter project = project.tree
    ∧ (understanding.treeAfter project).at? ["a.stepMap.json", "stepMaps"]
      = some (.file "\x7b\x7d".toUTF8)
    ∧ (forcing.treeAfter project).at? ["page.js", "pageobjects", "tests"]
      = some (.file "mine".toUTF8) := by
  have hbase : aim project.tree.workDir forcing.basePath = ["page.js", "pageobjects", "tests"] := by
    decide +kernel
  have hstaging : ¬ ∃ target ∈ understanding.targets project, ["a.stepMap.json", "stepMaps"]
      = aim project.tree.workDir (stagingOf target) := by
    decide +kernel
  have hfound : ∀ target ∈ understanding.targets project,
      aim project.tree.workDir target = ["a.stepMap.json", "stepMaps"] →
      (project.tree.find? target).isSome := by
    decide +kernel
  refine ⟨(run_keeps_files trying project).1 rfl, ?_, ?_⟩
  · exact (run_keeps_files understanding project).2.1 rfl _ _ rfl hstaging hfound
  · rw [← hbase]
    refine (run_keeps_files forcing project).2.2 _ ?_
    rw [hbase]
    rfl

/-! ## A detour -/

/-- A project with a step map beside the features. -/
def plain : Session where
  tree := {
    entries := [(["a.stepMap.json"], .file "mine".toUTF8),
      (["a.feature", "features"], .file "Feature: a".toUTF8),
      (["features"], .directory)]
    workDir := [] }
  told := []

/-- The feature is understood, and the step map is written there on a detour
through a directory that is missing. -/
def detouring : Invocation :=
  customary (.steps ⟨false, ["a"], false, false, none, some ⟨"new/.."⟩⟩)

/-- **Not every file is kept without force** that is no hidden sibling of a
target. -/
theorem not_forall_kept :
    ¬ ∀ (invocation : Invocation) (session : Session),
      invocation.command.options.force = false → ∀ location bytes,
      session.tree.at? location = some (.file bytes) →
      ¬ IsStaging session.tree.workDir (invocation.targets session) location →
      (invocation.treeAfter session).at? location = some (.file bytes) := by
  intro h
  have hstaging : ¬ ∃ target ∈ detouring.targets plain, ["a.stepMap.json"]
      = aim plain.tree.workDir (stagingOf target) := by
    decide +kernel
  have hkept := h detouring plain rfl ["a.stepMap.json"] "mine".toUTF8 rfl hstaging
  have hlost : ((detouring.treeAfter plain).at? ["a.stepMap.json"]).bind Node.bytes?
      ≠ some "mine".toUTF8 := by
    decide +kernel
  rw [hkept] at hlost
  exact hlost rfl

end Invocation

end Playscript
