import Playscript.Proofs.Output.Abreast
import Playscript.Proofs.Processing.Done

/-!
# Inputs that leave each other alone

What an input is written to has a name made of its own, in a directory that
inputs of a stage share. The base class stands in one of these as well, under
a shorter name, and the ways to them are shorter still
(`Stage.IsShared`). So inputs with different names write to different places,
which are nobody's way, and whether one of them has been processed makes no
difference to the processing of another (`Stage.agrees_process`).

This needs that the directories never lead up. Otherwise a target may be found
only once somebody has made a directory that it leads through.
-/

namespace Playscript

open FileTree FileTree.Pair Output

/-! ## Layouts -/

namespace Layout

/-- **Page objects and test scripts are beneath one directory.** -/
def IsPaired (layout : Layout) : Prop :=
  ∃ dir : Path, layout.pageObjects = dir.join ⟨"pageobjects"⟩ ∧ layout.specs = dir.join ⟨"specs"⟩

theorem isEntry_pageobjects : Path.IsEntry "pageobjects" :=
  .of_length (List.forall_mem_ne'.mpr (by decide)) (by decide)

theorem isEntry_specs : Path.IsEntry "specs" :=
  .of_length (List.forall_mem_ne'.mpr (by decide)) (by decide)

end Layout

/-- **Every layout that can be asked for** is such a one. -/
theorem Invocation.isPaired_layout (invocation : Invocation) : invocation.layout.IsPaired := by
  have hmoved (layout : Layout) (h : layout.IsPaired) (dir : Option Path) :
      ((dir.map layout.withFeatures).getD layout).IsPaired
        ∧ ((dir.map layout.withStepMaps).getD layout).IsPaired := by
    cases dir <;> exact ⟨h, h⟩
  have hinput : invocation.inputLayout.IsPaired :=
    (hmoved _ (hmoved (.beneath invocation.root) ⟨_, rfl, rfl⟩ _).1 _).2
  rw [layout]
  split
  · exact ⟨_, rfl, rfl⟩
  · exact hinput

namespace Stage

variable {stage : Stage} {layout : Layout} {workDir location : Location} {path other : Path}
  {base : String}

/-! ## Places of outputs -/

/-- The directories that outputs go to. -/
def outputDirs (layout : Layout) : Stage → List Path
  | understanding _ => [layout.stepMaps]
  | writing _ => [layout.pageObjects, layout.specs]

/-- The directories with a base class. -/
def baseDirs (layout : Layout) : Stage → List Path
  | understanding _ => []
  | writing _ => [layout.pageObjects]

/-- **What whoever comes first makes**: the directories on the way to outputs,
and the base class. -/
def IsShared (layout : Layout) (workDir location : Location) (node : Node) (stage : Stage) :
    Prop :=
  (node = .directory ∧ ∃ dir ∈ stage.outputDirs layout, location <:+ aim workDir dir)
    ∨ node = .file Page.baseSource.toUTF8
      ∧ ∃ dir ∈ stage.baseDirs layout, location = Page.baseFile :: aim workDir dir

/-- **The places of the outputs of an input** and of their hidden siblings. -/
def IsOutput (layout : Layout) (workDir : Location) (path : Path) (location : Location)
    (stage : Stage) : Prop :=
  ∃ base, path.stem? stage.suffix = some base
    ∧ IsWritten workDir (stage.outputsOf layout base) location

/-- Whether a place could be that of an output: under a name that is longer
than that of the base class. -/
def IsProduct (layout : Layout) (workDir location : Location) (stage : Stage) : Prop :=
  ∃ dir ∈ stage.outputDirs layout, ∃ name : String, location = name :: aim workDir dir
    ∧ Page.baseFile.toList.length < name.toList.length

/-- **A layout in which a stage goes straight to its outputs.** -/
structure GoesStraight (stage : Stage) (layout : Layout) : Prop where
  /-- It is one that can be asked for. -/
  paired : layout.IsPaired
  /-- No directory of outputs leads up. -/
  straight : ∀ dir ∈ stage.outputDirs layout, dir.IsStraight

theorem baseDirs_subset (stage : Stage) (layout : Layout) :
    stage.baseDirs layout ⊆ stage.outputDirs layout := by
  cases stage with
  | understanding _ => exact List.nil_subset _
  | writing _ => exact List.cons_subset_cons _ (List.nil_subset _)

/-- The directories of outputs are equally deep. -/
theorem length_aim_eq (h : layout.IsPaired) (workDir : Location) {dir dir' : Path}
    (hdir : dir ∈ stage.outputDirs layout) (hdir' : dir' ∈ stage.outputDirs layout) :
    (aim workDir dir).length = (aim workDir dir').length := by
  cases stage with
  | understanding _ => rw [List.mem_singleton.mp hdir, List.mem_singleton.mp hdir']
  | writing _ =>
    obtain ⟨above, hpages, hspecs⟩ := h
    have hlength : ∀ dir ∈ [layout.pageObjects, layout.specs],
        (aim workDir dir).length = (aim workDir above).length + 1 := by
      rw [hpages, hspecs]
      refine List.forall_mem_cons.mpr ⟨?_, List.forall_mem_singleton.mpr ?_⟩
      · rw [aim_join _ _ Layout.isEntry_pageobjects, List.length_cons]
      · rw [aim_join _ _ Layout.isEntry_specs, List.length_cons]
    rw [hlength dir hdir, hlength dir' hdir']

/-- **A target is an entry of a directory of outputs**, under a name of its
own. -/
theorem exists_join_of_outputsOf (hstem : path.stem? stage.suffix = some base) {target : Path}
    (hm : target ∈ stage.outputsOf layout base) :
    ∃ dir ∈ stage.outputDirs layout, ∃ name, target = dir.join ⟨name⟩ ∧ Path.IsEntry name
      ∧ Page.baseFile.toList.length < name.toList.length := by
  have hname {ending : String} (hslash : '/' ∉ ending.toList) (hlong : 7 < ending.toList.length) :
      Path.IsEntry (base ++ ending)
        ∧ Page.baseFile.toList.length < (base ++ ending).toList.length := by
    have hbase : Page.baseFile.toList.length = 7 := by decide
    refine ⟨Path.isEntry_of_stem? hstem hslash (by omega), ?_⟩
    rw [String.toList_append, List.length_append]
    omega
  cases stage with
  | understanding _ =>
    obtain rfl := List.mem_singleton.mp hm
    exact ⟨_, List.mem_cons_self, _, rfl, hname (by decide) (by decide)⟩
  | writing _ =>
    rcases List.mem_pair.mp hm with rfl | rfl
    · exact ⟨_, List.mem_cons_self, _, rfl, hname (by decide) (by decide)⟩
    · exact ⟨_, List.mem_cons_of_mem _ List.mem_cons_self, _, rfl, hname (by decide) (by decide)⟩

/-- The hidden sibling of an entry, in a directory. -/
theorem aim_stagingOf_join (workDir : Location) (dir : Path) {name : String}
    (h : Path.IsEntry name) :
    aim workDir (stagingOf (dir.join ⟨name⟩)) = ("." ++ name ++ ".tmp") :: aim workDir dir := by
  obtain ⟨above, haim, hstaging⟩ := exists_aim_eq_cons workDir (Path.fileName?_join dir h)
  rw [aim_join dir workDir h] at haim
  rw [hstaging, (List.cons.inj haim).2]

/-- **What is written to looks like an output.** -/
theorem isProduct_of_isOutput (h : stage.IsOutput layout workDir path location) :
    stage.IsProduct layout workDir location := by
  obtain ⟨base, hstem, hwritten⟩ := h
  rcases hwritten with ⟨target, hm, rfl⟩ | ⟨target, hm, rfl⟩
  · obtain ⟨dir, hdir, name, rfl, hentry, hlong⟩ := exists_join_of_outputsOf hstem hm
    refine ⟨dir, hdir, _, aim_stagingOf_join workDir dir hentry, ?_⟩
    rw [length_staging]
    omega
  · obtain ⟨dir, hdir, name, rfl, hentry, hlong⟩ := exists_join_of_outputsOf hstem hm
    exact ⟨dir, hdir, name, aim_join dir workDir hentry, hlong⟩

/-- What looks like an output is not on the way to one. -/
theorem not_isProduct_of_suffix (h : layout.IsPaired) {dir : Path}
    (hdir : dir ∈ stage.outputDirs layout) (hway : location <:+ aim workDir dir) :
    ¬ stage.IsProduct layout workDir location := by
  rintro ⟨dir', hdir', name, rfl, -⟩
  have hle := hway.length_le
  rw [length_aim_eq h workDir hdir hdir', List.length_cons] at hle
  omega

/-- It is not the base class. -/
theorem not_isProduct_base (dir : Path) :
    ¬ stage.IsProduct layout workDir (Page.baseFile :: aim workDir dir) := by
  rintro ⟨dir', -, name, he, hlong⟩
  rw [(List.cons.inj he).1] at hlong
  exact lt_irrefl _ hlong

/-- **It is nothing that is shared.** -/
theorem not_isShared_of_isProduct (h : layout.IsPaired)
    (hproduct : stage.IsProduct layout workDir location) (node : Node) :
    ¬ stage.IsShared layout workDir location node := by
  rintro (⟨-, dir, hdir, hway⟩ | ⟨-, dir, -, rfl⟩)
  · exact not_isProduct_of_suffix h hdir hway hproduct
  · exact not_isProduct_base dir hproduct

/-- On the way to outputs nothing but directories is shared. -/
theorem eq_directory_of_isShared (h : layout.IsPaired) {dir : Path}
    (hdir : dir ∈ stage.outputDirs layout) (hway : location <:+ aim workDir dir) {node : Node}
    (hshared : stage.IsShared layout workDir location node) : node = .directory := by
  rcases hshared with ⟨hnode, -⟩ | ⟨-, dir', hdir', rfl⟩
  · exact hnode
  · have hle := hway.length_le
    rw [length_aim_eq h workDir hdir (stage.baseDirs_subset layout hdir'), List.length_cons] at hle
    omega

/-! ## Different names -/

/-- **Outputs of different names are at different places.** -/
theorem base_eq_of_aim_eq {base' : String} (hstem : path.stem? stage.suffix = some base)
    (hstem' : other.stem? stage.suffix = some base') {target target' : Path}
    (hm : target ∈ stage.outputsOf layout base) (hm' : target' ∈ stage.outputsOf layout base')
    (haim : aim workDir target = aim workDir target') : base = base' := by
  have hentry {path : Path} {base ending : String} (hstem : path.stem? stage.suffix = some base)
      (hending : ending ∈ [Suffix.stepMap, Suffix.pageObject, Suffix.spec]) :
      Path.IsEntry (base ++ ending) := by
    have hends : ∀ ending ∈ [Suffix.stepMap, Suffix.pageObject, Suffix.spec],
        '/' ∉ ending.toList ∧ 3 ≤ ending.toList.length := by decide
    exact Path.isEntry_of_stem? hstem (hends ending hending).1 (hends ending hending).2
  have hname {dir dir' : Path} {ending ending' : String}
      (hending : ending ∈ [Suffix.stepMap, Suffix.pageObject, Suffix.spec])
      (hending' : ending' ∈ [Suffix.stepMap, Suffix.pageObject, Suffix.spec])
      (haim : aim workDir (dir.join ⟨base ++ ending⟩)
        = aim workDir (dir'.join ⟨base' ++ ending'⟩)) :
      base.toList ++ ending.toList = base'.toList ++ ending'.toList := by
    rw [aim_join _ _ (hentry hstem hending), aim_join _ _ (hentry hstem' hending')] at haim
    have htext := congrArg String.toList (List.cons.inj haim).1
    rwa [String.toList_append, String.toList_append] at htext
  have hsame {dir dir' : Path} {ending : String}
      (hending : ending ∈ [Suffix.stepMap, Suffix.pageObject, Suffix.spec])
      (haim : aim workDir (dir.join ⟨base ++ ending⟩)
        = aim workDir (dir'.join ⟨base' ++ ending⟩)) : base = base' :=
    String.toList_inj.mp (List.append_cancel_right (hname hending hending haim))
  -- a page object does not end as a test script does
  have hends : Suffix.pageObject.toList.length = Suffix.spec.toList.length := by decide
  have hdiffer : Suffix.pageObject.toList ≠ Suffix.spec.toList := by decide
  cases stage with
  | understanding _ =>
    obtain rfl := List.mem_singleton.mp hm
    obtain rfl := List.mem_singleton.mp hm'
    exact hsame (by decide) haim
  | writing _ =>
    rcases List.mem_pair.mp hm with rfl | rfl <;> rcases List.mem_pair.mp hm' with rfl | rfl
    · exact hsame (by decide) haim
    · exact absurd (List.append_inj_right' (hname (by decide) (by decide) haim) hends) hdiffer
    · exact absurd (List.append_inj_right' (hname (by decide) (by decide) haim) hends.symm)
        hdiffer.symm
    · exact hsame (by decide) haim

/-- An output is not a hidden sibling. -/
theorem aim_ne_aim_stagingOf {base' : String} (hstem : path.stem? stage.suffix = some base)
    (hstem' : other.stem? stage.suffix = some base') {target target' : Path}
    (hm : target ∈ stage.outputsOf layout base) (hm' : target' ∈ stage.outputsOf layout base') :
    aim workDir target ≠ aim workDir (stagingOf target') := by
  obtain ⟨name, hname, -, hvisible⟩ := (isNamedTo_outputsOf stage hstem target hm).name
  obtain ⟨name', hname', -⟩ := (isNamedTo_outputsOf stage hstem' target' hm').name
  obtain ⟨dir, haim, -⟩ := exists_aim_eq_cons workDir hname
  obtain ⟨dir', -, hstaging⟩ := exists_aim_eq_cons workDir hname'
  rw [haim, hstaging]
  intro he
  rw [(List.cons.inj he).1, isHidden_staging] at hvisible
  cases hvisible

/-- **Inputs of different names write to different places.** -/
theorem stem?_eq_of_isOutput (h : stage.IsOutput layout workDir path location)
    (h' : stage.IsOutput layout workDir other location) :
    path.stem? stage.suffix = other.stem? stage.suffix := by
  obtain ⟨base, hstem, hwritten⟩ := h
  obtain ⟨base', hstem', hwritten'⟩ := h'
  rw [hstem, hstem', Option.some.injEq]
  rcases hwritten with ⟨target, hm, rfl⟩ | ⟨target, hm, rfl⟩ <;>
    rcases hwritten' with ⟨target', hm', he⟩ | ⟨target', hm', he⟩
  · exact base_eq_of_aim_eq hstem hstem' hm hm' (aim_eq_of_stagingOf he)
  · exact absurd he.symm (aim_ne_aim_stagingOf hstem' hstem hm' hm)
  · exact absurd he (aim_ne_aim_stagingOf hstem hstem' hm hm')
  · exact base_eq_of_aim_eq hstem hstem' hm hm' he

/-! ## Two runs for one input -/

/-- Two runs for an input: in the second, others have touched certain
places. -/
def pairOf (layout : Layout) (path : Path) (theirs : Location → Prop) (start start' : FileTree)
    (stage : Stage) : Pair where
  shared location node := stage.IsShared layout start.workDir location node
  mine location := stage.IsOutput layout start.workDir path location
  theirs := theirs
  start := start
  start' := start'

/-- **Others leave an input alone**: they touch neither the input nor its
outputs, nor anything that does not look like an output. -/
structure LeftAlone (layout : Layout) (workDir : Location) (path : Path)
    (theirs : Location → Prop) (stage : Stage) : Prop where
  /-- What they touch looks like an output. -/
  products : ∀ location, theirs location → stage.IsProduct layout workDir location
  /-- It is no output of the input. -/
  outputs : ∀ location, stage.IsOutput layout workDir path location → ¬ theirs location
  /-- It is not the input, if that is looked at. -/
  input : stage.refusal? path = none → ¬ theirs (aim workDir path)

variable {theirs : Location → Prop} {start start' tree tree' : FileTree} {options : WriteOptions}

/-- **A target is that of its input only.** -/
theorem isMine_of_outputsOf (hlayout : stage.GoesStraight layout)
    (halone : stage.LeftAlone layout start.workDir path theirs)
    (hstem : path.stem? stage.suffix = some base) {target : Path}
    (hm : target ∈ stage.outputsOf layout base) :
    IsMine (stage.pairOf layout path theirs start start') target := by
  obtain ⟨dir, hdir, name, rfl, hentry, hlong⟩ := exists_join_of_outputsOf hstem hm
  have howns {name : String} (hentry : Path.IsEntry name)
      (hwritten : IsWritten start.workDir (stage.outputsOf layout base)
        (name :: aim start.workDir dir)) :
      (stage.pairOf layout path theirs start start').Owns dir name := by
    have houtput : stage.IsOutput layout start.workDir path (name :: aim start.workDir dir) :=
      ⟨base, hstem, hwritten⟩
    refine ⟨hlayout.straight dir hdir, fun hway => ?_, hentry, houtput, halone.outputs _ houtput,
      not_isShared_of_isProduct hlayout.paired (isProduct_of_isOutput houtput)⟩
    exact not_isProduct_of_suffix hlayout.paired hdir (List.suffix_refl _)
      (halone.products _ hway)
  refine ⟨⟨dir, name, rfl, howns hentry ?_, howns (isEntry_staging hentry.slash) ?_⟩,
    fun place hplace => ?_⟩
  · exact .inr ⟨_, hm, (aim_join dir _ hentry).symm⟩
  · exact .inl ⟨_, hm, (aim_stagingOf_join _ dir hentry).symm⟩
  · have hway : place <:+ aim start.workDir dir := by
      change place <:+ (aim start.workDir (dir.join ⟨name⟩)).tail at hplace
      rwa [aim_join dir _ hentry] at hplace
    exact ⟨fun h => not_isProduct_of_suffix hlayout.paired hdir hway (halone.products _ h),
      .inl ⟨rfl, dir, hdir, hway⟩,
      fun node h => eq_directory_of_isShared hlayout.paired hdir hway h⟩

/-- The base class is written by whoever comes first. -/
theorem sharesBase_pageObjects {nouns : NounFinder} (hlayout : (writing nouns).GoesStraight layout)
    (halone : (writing nouns).LeftAlone layout start.workDir path theirs) :
    SharesBase ((writing nouns).pairOf layout path theirs start start') layout.pageObjects := by
  have hdir : layout.pageObjects ∈ (writing nouns).outputDirs layout := List.mem_cons_self
  have htidy : layout.pageObjects.IsTidy := by
    obtain ⟨above, hpages, -⟩ := hlayout.paired
    rw [hpages]
    exact Path.isTidy_join above Layout.isEntry_pageobjects
  refine ⟨hlayout.straight _ hdir, htidy, ⟨fun h => ?_, ?_, fun node h => ?_⟩, fun h => ?_, ?_,
    fun node h => ?_⟩
  · exact not_isProduct_of_suffix hlayout.paired hdir (List.suffix_refl _) (halone.products _ h)
  · exact .inl ⟨rfl, _, hdir, List.suffix_refl _⟩
  · exact eq_directory_of_isShared hlayout.paired hdir (List.suffix_refl _) h
  · exact not_isProduct_base _ (halone.products _ h)
  · exact .inr ⟨rfl, _, List.mem_cons_self, rfl⟩
  · rcases h with ⟨-, dir, hdir', hway⟩ | ⟨hnode, -⟩
    · have hle : (Page.baseFile :: aim start.workDir layout.pageObjects).length
          ≤ (aim start.workDir dir).length := hway.length_le
      rw [List.length_cons, length_aim_eq hlayout.paired start.workDir hdir hdir'] at hle
      exact absurd hle (Nat.not_succ_le_self _)
    · exact hnode

/-! ## Preparing -/

/-- **The text of an input is read alike** where at most a directory has come
to be in its place. -/
theorem textOf_eq_of_abreast {pair : Pair} (h : pair.Abreast tree tree')
    (hstraight : path.IsStraight) (htheirs : ¬ pair.theirs (aim pair.start.workDir path))
    (hshared : ∀ node, pair.shared (aim pair.start.workDir path) node → node = .directory) :
    tree'.textOf path = tree.textOf path := by
  have hdir : tree'.workDir = tree.workDir := h.ahead.workDir
  have hfile {bytes : ByteArray} : tree'.find? path = some (.file bytes)
      ↔ tree.find? path = some (.file bytes) := by
    have hplace (hthere : tree'.at? (aim pair.start.workDir path) = some (.file bytes)) :
        tree.at? (aim pair.start.workDir path) = some (.file bytes) := by
      rcases h.ahead.spared _ htheirs with hsame | ⟨-, node, hnode, hmade⟩
      · rw [← hsame, hthere]
      · rw [hshared node hnode, hthere] at hmade
        cases hmade
    constructor
    · intro hfind
      obtain ⟨_, hlocate⟩ := exists_locate_of_find? (by rw [hfind]; rfl)
      have hthere := (find?_of_locate hlocate).symm.trans hfind
      rw [h.workDir_eq'] at hthere
      refine h.form.find?_of_find? h.form' hdir.symm hstraight ?_ hfind
      rw [h.workDir_eq']
      exact hplace hthere
    · intro hfind
      obtain ⟨_, hlocate⟩ := exists_locate_of_find? (by rw [hfind]; rfl)
      have hthere := (find?_of_locate hlocate).symm.trans hfind
      rw [h.workDir_eq] at hthere
      refine h.form'.find?_of_find? h.form hdir hstraight ?_ hfind
      rw [h.workDir_eq]
      exact h.ahead.at?_eq_some htheirs hthere
  have hnone {tree : FileTree} (hno : ∀ bytes, tree.find? path ≠ some (.file bytes)) :
      tree.textOf path = .error (.notFound path) := by
    rw [textOf]
    split
    · next bytes hfind => exact absurd hfind (hno bytes)
    · rfl
  by_cases hsome : ∃ bytes, tree.find? path = some (.file bytes)
  · obtain ⟨bytes, hfind⟩ := hsome
    rw [textOf_of_file hfind, textOf_of_file (hfile.mpr hfind)]
  · have hno := not_exists.mp hsome
    rw [hnone hno, hnone fun bytes hfind => hno bytes (hfile.mp hfind)]

/-- Of an input that is looked at, nothing but directories is shared. -/
theorem eq_directory_of_input (hread : stage.refusal? path = none) {node : Node}
    (hshared : stage.IsShared layout workDir (aim workDir path) node) : node = .directory := by
  rcases hshared with ⟨hnode, -⟩ | ⟨-, dir, hdir, haim⟩
  · exact hnode
  cases stage with
  | understanding _ => cases hdir
  | writing _ =>
    -- an input that has not been refused has another name than the base class
    exfalso
    cases hstem : path.stem? Suffix.stepMap with
    | none =>
      rw [refusal?, hstem] at hread
      cases hread
    | some base =>
      obtain ⟨above, hpath, -⟩ := exists_aim_eq_cons workDir (Path.fileName?_of_stem? hstem)
      rw [hpath] at haim
      have hlength := congrArg (·.toList.length) (List.cons.inj haim).1
      have hsuffix : Suffix.stepMap.toList.length = 13 := by decide
      have hbase : Page.baseFile.toList.length = 7 := by decide
      rw [String.toList_append, List.length_append] at hlength
      omega

theorem preparedIn_eq_of_abreast
    (h : (stage.pairOf layout path theirs start start').Abreast tree tree')
    (hstraight : path.IsStraight) (halone : stage.LeftAlone layout start.workDir path theirs) :
    stage.preparedIn layout path tree' = stage.preparedIn layout path tree := by
  rw [preparedIn, preparedIn]
  cases hread : stage.refusal? path with
  | some fault => rfl
  | none =>
    have htext := textOf_eq_of_abreast h hstraight (halone.input hread)
      fun node hnode => eq_directory_of_input hread hnode
    rw [htext]

/-! ## Processing -/

/-- **What has been written is completed alike.** -/
theorem agrees_finish (h : (stage.pairOf layout path theirs start start').Abreast tree tree')
    (hlayout : stage.GoesStraight layout)
    (halone : stage.LeftAlone layout start.workDir path theirs)
    (hstem : path.stem? stage.suffix = some base) {outcome : Outcome}
    (hopen : ∀ paths, outcome = .written paths → ∀ target ∈ stage.outputsOf layout base,
      IsOpen (stage.pairOf layout path theirs start start') target tree) :
    (stage.pairOf layout path theirs start start').Agrees
      (stage.finish layout ⟨path, base, outcome⟩) tree tree' fun _ _ => True := by
  cases stage with
  | understanding _ => exact .pure h trivial
  | writing nouns =>
    show Agrees _ (withBase layout _) tree tree' _
    rw [withBase]
    cases outcome with
    | skipped existing => exact .pure h trivial
    | preview paths => exact .pure h trivial
    | written paths =>
      have hthere : tree.at? (aim start.workDir layout.pageObjects) = some .directory := by
        have hpage := hopen paths rfl (layout.pageObjectOf base) List.mem_cons_self
        have hentry : Path.IsEntry (base ++ Suffix.pageObject) :=
          Path.isEntry_of_stem? hstem (by decide) (by decide)
        rw [Output.IsOpen, Layout.pageObjectOf, aim_join _ _ hentry] at hpage
        exact hpage
      obtain ⟨made, made', next, next', hbase, hbase', habreast, hstays⟩ :=
        exists_ensureBase h (sharesBase_pageObjects hlayout halone) hthere
      exact ⟨_, next, next', run_bind hbase _, run_bind hbase' _, habreast, hstays, trivial⟩

/-- **Outputs are written alike**, and where they were their directories are
there. -/
theorem agrees_writeOutputs
    (h : (stage.pairOf layout path theirs start start').Abreast tree tree')
    (hlayout : stage.GoesStraight layout)
    (halone : stage.LeftAlone layout start.workDir path theirs)
    (hstem : path.stem? stage.suffix = some base) {drafts : List Draft}
    (htargets : drafts.map (·.1) = stage.outputsOf layout base) (options : WriteOptions) :
    (stage.pairOf layout path theirs start start').Agrees
      (writeOutputs path base drafts options) tree tree' fun written next =>
        ∀ report, written = .ok report → ∃ outcome, report = ⟨path, base, outcome⟩
          ∧ ∀ paths, outcome = .written paths → ∀ target ∈ stage.outputsOf layout base,
            IsOpen (stage.pairOf layout path theirs start start') target next := by
  have hmine : ∀ draft ∈ drafts,
      IsMine (stage.pairOf layout path theirs start start') draft.1 := fun draft hm =>
    isMine_of_outputsOf hlayout halone hstem (htargets ▸ List.mem_map_of_mem hm)
  rw [writeOutputs]
  refine (agrees_writeAll h hmine options).bind fun written middle middle' habreast _ hopen => ?_
  cases written with
  | error error => exact .pure habreast fun _ hwritten => by cases hwritten
  | ok outcome =>
    refine .pure habreast fun report hreport => ⟨outcome, (Except.ok.inj hreport).symm, ?_⟩
    rintro paths rfl target hm
    rw [← htargets] at hm
    obtain ⟨draft, hdraft, rfl⟩ := List.mem_map.mp hm
    exact hopen paths rfl draft hdraft

/-- **An input is processed alike whether others have been at work or not**, as
long as they leave it alone. -/
theorem agrees_process (h : (stage.pairOf layout path theirs start start').Abreast tree tree')
    (hlayout : stage.GoesStraight layout) (hstraight : path.IsStraight)
    (halone : stage.LeftAlone layout start.workDir path theirs) (options : WriteOptions) :
    (stage.pairOf layout path theirs start start').Agrees
      (stage.process layout options path) tree tree' fun _ _ => True := by
  rw [process_eq]
  have hprepare := prepare_tree layout path stage tree
  have hprepare' := prepare_tree layout path stage tree'
  rw [preparedIn_eq_of_abreast h hstraight halone] at hprepare'
  have hfirst : (stage.pairOf layout path theirs start start').Agrees
      (stage.prepare layout path) tree tree'
      fun prepared _ => prepared = stage.preparedIn layout path tree :=
    .of_eq h hprepare hprepare' rfl
  refine hfirst.bind fun prepared middle middle' habreast _ hprepared => ?_
  cases prepared with
  | error fault => exact .pure habreast trivial
  | ok prepared =>
    obtain ⟨base, drafts⟩ := prepared
    obtain ⟨text, -, hmade⟩ := of_preparedIn hprepared.symm
    obtain ⟨hstem, htargets⟩ := of_made hmade
    refine (agrees_writeOutputs habreast hlayout halone hstem htargets options).bind
      fun written last last' habreast _ hwritten => ?_
    cases written with
    | error fault => exact .pure habreast trivial
    | ok report =>
      obtain ⟨outcome, rfl, hopen⟩ := hwritten report rfl
      exact agrees_finish habreast hlayout halone hstem hopen

end Stage

end Playscript
