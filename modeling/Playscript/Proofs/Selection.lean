import Mathlib.Data.List.Nodup
import Playscript.Proofs.FirstOccurrences
import Playscript.Proofs.Inputs
import Playscript.Proofs.Processing.Accepted

/-!
# Which inputs are chosen

The inputs of a run are listed in two parts: the files of a directory in the
order of their names, and behind them what was named and is not among them.
Both parts are put together with one rule, that an input is chosen where it is
first mentioned (`Inputs.AreFirstMentions`). Mentions are compared by what
paths say and not by how they are written, so two ways to write an input count
as one, and the first of them is kept.

An input that was found has a name before the suffix, and its name is all that
an input is refused for without being read. So none that was found is refused
later, whatever happens to the disk in between (`Stage.accepts_process`).
What was named is not asked for a name and may be refused.

That a file is found once is a matter of how the tree is listed and not of what
is in it. A tree in which a place came twice would be listed so; what a run
leaves is no such tree if what it found was none (`Invocation.keepsListing_run`).
-/

namespace Playscript

namespace FileTree

variable {tree : FileTree} {location : Location} {name : String}

/-! ## Files that are inputs -/

/-- **A file with a name that is that of an input**: it is in the directory at
a location, and its name has something before the suffix. -/
structure IsInput (tree : FileTree) (location : Location) (suffix name : String) : Prop where
  /-- It is a file. -/
  file : ∃ bytes, tree.at? (name :: location) = some (.file bytes)
  /-- Its name is not the bare suffix. -/
  named : ∃ base, base ≠ "" ∧ name = base ++ suffix

theorem isFileAt_iff :
    tree.isFileAt location = true ↔ ∃ bytes, tree.at? location = some (.file bytes) := by
  rw [isFileAt]
  split
  · next bytes h => exact iff_of_true rfl ⟨bytes, h⟩
  · next h =>
    refine iff_of_false Bool.false_ne_true ?_
    rintro ⟨bytes, hbytes⟩
    exact h bytes hbytes

/-- Both are seen from the path to the file. -/
theorem isInput_iff {dir : Path} {suffix : String} (htree : tree.WellFormed)
    (h : tree.locate dir = .ok location) (hdirectory : tree.at? location = some .directory)
    (hname : name ∈ tree.namesWithin location) :
    (tree.findsFile (dir.join ⟨name⟩) && ((dir.join ⟨name⟩).stem? suffix).isSome) = true
      ↔ tree.IsInput location suffix name := by
  have husable := htree.names name location (mem_namesWithin_iff.mp hname)
  rw [findsFile_join h hdirectory husable, Bool.and_eq_true, isFileAt_iff]
  constructor
  · rintro ⟨hfile, hstem⟩
    obtain ⟨base, hbase⟩ := Option.isSome_iff_exists.mp hstem
    obtain ⟨hwhole, hne⟩ := (Path.stem?_join dir husable.entry).mp hbase
    exact ⟨hfile, base, hne, hwhole⟩
  · rintro ⟨hfile, base, hne, hwhole⟩
    refine ⟨hfile, Option.isSome_iff_exists.mpr ⟨base, ?_⟩⟩
    exact (Path.stem?_join dir husable.entry).mpr ⟨hwhole, hne⟩

end FileTree

namespace Inputs

open FileTree

/-! ## What is found -/

/-- Sorted names that are all different increase. -/
theorem pairwise_lt_mergeSort {names : List String} (h : names.Nodup) :
    (names.mergeSort fun a b => decide (a ≤ b)).Pairwise (· < ·) := by
  have hle : (names.mergeSort fun a b => decide (a ≤ b)).Pairwise
      fun a b => decide (a ≤ b) = true := by
    refine List.pairwise_mergeSort (fun a b c hab hbc => ?_) (fun a b => ?_) names
    · exact decide_eq_true (String.le_trans (of_decide_eq_true hab) (of_decide_eq_true hbc))
    · rw [Bool.or_eq_true, decide_eq_true_iff, decide_eq_true_iff]
      exact String.le_total a b
  have hne := (List.mergeSort_perm names fun a b => decide (a ≤ b)).nodup_iff.mpr h
  refine (hle.and hne).imp fun {a b} ⟨hab, hneq⟩ => String.not_le.mp fun hba => hneq ?_
  exact String.le_antisymm (of_decide_eq_true hab) hba

/-- **All inputs of a directory** are found, each of them once, in the order of
their names. -/
theorem exists_names_of_locate {session : Session} (htree : session.tree.WellFormed)
    (honce : session.tree.ListsOnce) {dir : Path} {location : Location}
    (h : session.tree.locate dir = .ok location)
    (hdirectory : session.tree.at? location = some .directory) (suffix : String) :
    ∃ names : List String, names.Pairwise (· < ·)
      ∧ (∀ name, name ∈ names ↔ session.tree.IsInput location suffix name)
      ∧ (findAll dir suffix : StateM Session (Except Fault (List Path))) session
        = (.ok (names.map fun name => dir.join ⟨name⟩), session) := by
  set kept := (session.tree.namesWithin location).filter fun name =>
    session.tree.findsFile (dir.join ⟨name⟩) && ((dir.join ⟨name⟩).stem? suffix).isSome with hkept
  refine ⟨kept.mergeSort fun a b => decide (a ≤ b),
    pairwise_lt_mergeSort ((honce.nodup_namesWithin location).filter _), fun name => ?_, ?_⟩
  · rw [List.mem_mergeSort, hkept, List.mem_filter]
    constructor
    · rintro ⟨hname, hinput⟩
      exact (isInput_iff htree h hdirectory hname).mp hinput
    · intro hinput
      obtain ⟨bytes, hbytes⟩ := hinput.file
      have hname : name ∈ session.tree.namesWithin location :=
        mem_namesWithin_iff.mpr (by rw [hbytes]; rfl)
      exact ⟨hname, (isInput_iff htree h hdirectory hname).mpr hinput⟩
  · have hsort : (kept.mergeSort fun a b => decide (a ≤ b)).map (fun name => dir.join ⟨name⟩)
        = (kept.map fun name => dir.join ⟨name⟩).mergeSort Path.le := by
      refine List.map_mergeSort fun name hname last hlast => ?_
      have hentry {name : String} (hm : name ∈ kept) : Path.IsEntry name :=
        (htree.names name location
          (mem_namesWithin_iff.mp (List.mem_of_mem_filter hm))).entry
      exact (Path.le_join dir (hentry hname) (hentry hlast)).symm
    rw [findAll_of_locate h hdirectory, hsort, hkept, List.filter_filter, List.filter_map]
    rfl

/-! ## First mentions -/

/-- **The first mentions of inputs.** Which of them are kept is a question of
what they say; each is kept as it is written where it comes first. -/
structure AreFirstMentions (mentioned inputs : List Path) : Prop where
  /-- What the inputs say is what is said first. -/
  first : IsFirstOccurrences (mentioned.map Path.components) (inputs.map Path.components)
  /-- They are written as where they are mentioned first. -/
  written : ∀ path ∈ inputs, mentioned.find? path.same = some path

/-- **The inputs that names ask for**: the directory joined with each name, and
with the suffix behind it where the name does not end with it. -/
def requested (dir : Path) (suffix : String) (named : List String) : List Path :=
  named.map fun name =>
    dir.join ⟨if suffix.toList <:+ name.toList then name else name ++ suffix⟩

theorem completed_eq (suffix name : String) :
    completed suffix name = if suffix.toList <:+ name.toList then name else name ++ suffix := by
  rw [completed]
  simp only [List.isSuffixOf_iff_suffix]

theorem any_same_eq (inputs : List Path) (path : Path) :
    inputs.any path.same = (inputs.map Path.components).elem path.components := by
  rw [Bool.eq_iff_iff, List.any_eq_true, List.elem_eq_mem, decide_eq_true_iff, List.mem_map]
  exact exists_congr fun other => and_congr_right fun _ => Path.same_iff.trans eq_comm

namespace AreFirstMentions

variable {mentioned inputs : List Path}

/-- **One more mention** keeps its input unless it says what was said. -/
theorem add (h : AreFirstMentions mentioned inputs) (path : Path) :
    AreFirstMentions (mentioned ++ [path]) (add inputs path) := by
  have hstep := h.first.concat path.components
  rw [← any_same_eq] at hstep
  have hfront (other : Path) (hm : other ∈ inputs) :
      (mentioned ++ [path]).find? other.same = some other := by
    rw [List.find?_append, h.written other hm]
    rfl
  rw [Inputs.add]
  by_cases hany : inputs.any path.same = true
  · rw [if_pos hany] at hstep ⊢
    refine ⟨?_, hfront⟩
    rwa [List.map_append]
  · rw [if_neg hany] at hstep ⊢
    refine ⟨?_, fun other hm => ?_⟩
    · rwa [List.map_append, List.map_append]
    · rcases List.mem_append.mp hm with hm | hm
      · exact hfront other hm
      · obtain rfl := List.mem_singleton.mp hm
        have hnone : mentioned.find? other.same = none := by
          refine List.find?_eq_none.mpr fun earlier hearlier hsame => hany ?_
          rw [any_same_eq, List.elem_iff, h.first.mem_iff, Path.same_iff.mp hsame]
          exact List.mem_map_of_mem hearlier
        rw [List.find?_append, hnone, List.find?_singleton, if_pos (Path.same_iff.mpr rfl)]
        rfl

/-- Paths that all say something else are mentioned once. -/
theorem of_pairwise {paths : List Path}
    (h : paths.Pairwise fun a b => a.same b = false) : AreFirstMentions paths paths := by
  constructor
  · refine isFirstOccurrences_of_nodup (List.pairwise_map.mpr (h.imp fun {a b} hne he => ?_))
    exact Bool.false_ne_true (hne.symm.trans (Path.same_iff.mpr he))
  · intro path hm
    obtain ⟨front, back, rfl⟩ := List.append_of_mem hm
    refine List.find?_eq_some_iff_append.mpr
      ⟨Path.same_iff.mpr rfl, front, back, rfl, fun other hother => ?_⟩
    rw [Path.same_comm, (List.pairwise_append.mp h).2.2 other hother path List.mem_cons_self]
    rfl

/-- **Names are mentioned behind what there is.** -/
theorem addNamed (h : AreFirstMentions mentioned inputs) (dir : Path) (suffix : String)
    (named : List String) :
    AreFirstMentions (mentioned ++ requested dir suffix named)
      (addNamed dir suffix inputs named) := by
  induction named generalizing mentioned inputs with
  | nil => rwa [requested, List.map_nil, List.append_nil]
  | cons name named ih =>
    rw [requested, List.map_cons, List.append_cons, ← completed_eq]
    exact ih (h.add _)

/-- No two inputs say the same. -/
theorem distinct (h : AreFirstMentions mentioned inputs) :
    inputs.Pairwise fun a b => a.same b = false := by
  refine (List.pairwise_map.mp h.first.nodup).imp fun {a b} hne => ?_
  rw [← Bool.not_eq_true, Path.same_iff]
  exact hne

/-- **What is mentioned is chosen once**, in one way of writing it. -/
theorem countP_same (h : AreFirstMentions mentioned inputs) {path : Path}
    (hm : path ∈ mentioned) : inputs.countP path.same = 1 := by
  have hcount : (inputs.map Path.components).count path.components = 1 :=
    List.count_eq_one_of_mem h.first.nodup ((h.first.mem_iff _).mpr (List.mem_map_of_mem hm))
  rw [List.count, List.countP_map] at hcount
  rw [← hcount]
  refine List.countP_congr fun other _ => ?_
  rw [Function.comp_apply, beq_iff_eq, Path.same_iff, eq_comm]

end AreFirstMentions

/-- Adding inputs keeps those that are there in front. -/
theorem prefix_addNamed (dir : Path) (suffix : String) (inputs : List Path)
    (named : List String) : inputs <+: addNamed dir suffix inputs named := by
  induction named generalizing inputs with
  | nil => exact List.prefix_refl _
  | cons name named ih =>
    refine List.IsPrefix.trans (?_ : inputs <+: add inputs _) (ih _)
    rw [add]
    split
    · exact List.prefix_refl _
    · exact List.prefix_append _ _

/-! ## The inputs of a run -/

/-- **What is selected**: what is found, and behind it what is named. -/
structure IsSelection (tree : FileTree) (dir : Path) (suffix : String) (all : Bool)
    (named : List String) (found inputs : List Path) : Prop where
  /-- Nothing is found unless that is asked for. -/
  unasked : all = false → found = []
  /-- What is found are the files of the directory that are inputs, in the
  order of their names. -/
  files : all = true → ∃ (location : Location) (names : List String),
    tree.locate dir = .ok location
    ∧ names.Pairwise (· < ·)
    ∧ (∀ name, name ∈ names ↔ tree.IsInput location suffix name)
    ∧ found = names.map fun name => dir.join ⟨name⟩
  /-- That is the order of their paths. -/
  sorted : found.Pairwise fun a b => a.le b = true
  /-- What is found comes first. -/
  front : found <+: inputs
  /-- Every input stands where it is mentioned first. -/
  mentions : AreFirstMentions (found ++ requested dir suffix named) inputs
  /-- No two inputs say the same. -/
  distinct : inputs.Pairwise fun a b => a.same b = false
  /-- Whatever is found or named is selected once. -/
  once : ∀ path ∈ found ++ requested dir suffix named, inputs.countP path.same = 1
  /-- What is found is not refused later, whatever has become of the disk. -/
  accepted : ∀ path ∈ found, ∀ stage : Stage, stage.suffix = suffix → ∀ layout options,
    Session.Accepts (stage.process layout options path)

section

variable {session : Session} {dir : Path} {suffix : String}

theorem select_of_not_directory (h : session.tree.find? dir ≠ some .directory)
    (named : List String) :
    (select dir suffix true named : StateM Session (Except Fault (List Path))) session
      = (.error (.notFound dir), session) := by
  have hlook : (Disk.isDirectory dir : StateM Session Bool) session = (false, session) := by
    rw [isDirectory_eq_of_session]
    split
    · next hfound => exact absurd hfound h
    · rfl
  have hfind : (findAll dir suffix : StateM Session (Except Fault (List Path))) session
      = (.error (.notFound dir), session) := by
    rw [findAll, run_bind hlook]
    rfl
  rw [select, if_pos rfl, run_bind hfind]
  rfl

theorem select_of_findAll {found : List Path}
    (h : (findAll dir suffix : StateM Session (Except Fault (List Path))) session
      = (.ok found, session)) (named : List String) :
    (select dir suffix true named : StateM Session (Except Fault (List Path))) session
      = (.ok (addNamed dir suffix found named), session) := by
  rw [select, if_pos rfl, run_bind h]
  rfl

/-- **Names are selected without looking at the disk.** -/
theorem isSelection_named (tree : FileTree) (dir : Path) (suffix : String)
    (named : List String) :
    IsSelection tree dir suffix false named [] (addNamed dir suffix [] named) := by
  have hmentions := (AreFirstMentions.of_pairwise .nil).addNamed dir suffix named
  exact ⟨fun _ => rfl, nofun, .nil, prefix_addNamed dir suffix [] named, hmentions,
    hmentions.distinct, fun _ => hmentions.countP_same, nofun⟩

/-- **Files are selected in front of names.** -/
theorem isSelection_all {tree : FileTree} (htree : tree.WellFormed) {location : Location}
    (h : tree.locate dir = .ok location) {names : List String} (hsorted : names.Pairwise (· < ·))
    (hnames : ∀ name, name ∈ names ↔ tree.IsInput location suffix name) (named : List String) :
    IsSelection tree dir suffix true named (names.map fun name => dir.join ⟨name⟩)
      (addNamed dir suffix (names.map fun name => dir.join ⟨name⟩) named) := by
  have hentry {name : String} (hm : name ∈ names) : Path.IsEntry name := by
    obtain ⟨bytes, hbytes⟩ := ((hnames name).mp hm).file
    exact (htree.names name location (by rw [hbytes]; rfl)).entry
  have hdistinct : (names.map fun name => dir.join ⟨name⟩).Pairwise
      fun a b => a.same b = false := by
    refine List.pairwise_map.mpr (hsorted.imp_of_mem fun {a b} ha hb hlt => ?_)
    rw [← Bool.not_eq_true, Path.same_join_iff dir (hentry ha) (hentry hb)]
    rintro rfl
    exact String.lt_irrefl _ hlt
  have hmentions := (AreFirstMentions.of_pairwise hdistinct).addNamed dir suffix named
  refine ⟨nofun, fun _ => ⟨location, names, h, hsorted, hnames, rfl⟩, ?_,
    prefix_addNamed dir suffix _ named, hmentions, hmentions.distinct,
    fun _ => hmentions.countP_same, ?_⟩
  · refine List.pairwise_map.mpr (hsorted.imp_of_mem fun {a b} ha hb hlt => ?_)
    rw [Path.le_join dir (hentry ha) (hentry hb), decide_eq_true_iff]
    exact (String.le_total a b).resolve_right (String.not_le.mpr hlt)
  · rw [List.forall_mem_map]
    rintro name hm stage rfl layout options
    obtain ⟨base, hne, hwhole⟩ := ((hnames name).mp hm).named
    exact Stage.accepts_process ((Path.stem?_join dir (hentry hm)).mpr ⟨hwhole, hne⟩) layout options

/-- **Inputs are selected completely and without repetitions.** Only asking for
all inputs of what is no directory fails. Otherwise there is a selection: the
files of the directory that are inputs, if they are asked for, and behind them
what is named, where it is mentioned first. -/
theorem select_outcome (htree : session.tree.WellFormed) (honce : session.tree.ListsOnce)
    (dir : Path) (suffix : String) (all : Bool) (named : List String) :
    let answer := (select dir suffix all named
      : StateM Session (Except Fault (List Path))) session
    answer.2 = session
      ∧ (answer.1 = .error (.notFound dir)
        ↔ all = true ∧ session.tree.find? dir ≠ some .directory)
      ∧ (¬ (all = true ∧ session.tree.find? dir ≠ some .directory) → ∃ found inputs,
        answer.1 = .ok inputs
          ∧ IsSelection session.tree dir suffix all named found inputs) := by
  intro answer
  refine ⟨Session.readsOnly_select dir suffix all named session, ?_⟩
  cases all with
  | false =>
    have hanswer : answer.1 = .ok (addNamed dir suffix [] named) := rfl
    rw [hanswer]
    exact ⟨⟨nofun, nofun⟩, fun _ => ⟨_, _, rfl, isSelection_named _ dir suffix named⟩⟩
  | true =>
    by_cases hdirectory : session.tree.find? dir = some .directory
    · obtain ⟨location, hlocate, hthere⟩ := exists_locate_of_directory hdirectory
      obtain ⟨names, hsorted, hnames, hfind⟩ :=
        exists_names_of_locate htree honce hlocate hthere suffix
      have hanswer : answer = _ := select_of_findAll hfind named
      rw [hanswer]
      exact ⟨⟨nofun, fun h => absurd hdirectory h.2⟩,
        fun _ => ⟨_, _, rfl, isSelection_all htree hlocate hsorted hnames named⟩⟩
    · have hanswer : answer = _ := select_of_not_directory hdirectory named
      rw [hanswer]
      exact ⟨⟨fun _ => ⟨rfl, hdirectory⟩, fun _ => rfl⟩,
        fun h => absurd ⟨rfl, hdirectory⟩ h⟩

end

/-- A directory with two features, a suffix, a note and a directory that is
called like a feature. -/
def shelf : Session where
  tree := {
    entries := [(["b.feature", "shelf"], .file "Feature: b".toUTF8),
      ([".feature", "shelf"], .file ByteArray.empty),
      (["a.feature", "shelf"], .file "Feature: a".toUTF8),
      (["notes.txt", "shelf"], .file ByteArray.empty),
      (["c.feature", "shelf"], .directory),
      (["shelf"], .directory)]
    workDir := [] }
  told := []

theorem wellFormed_shelf : shelf.tree.WellFormed := by
  refine .of_entries ?_ rfl
  simp only [shelf, List.forall_mem_cons]
  refine ⟨⟨rfl, ?_⟩, ⟨rfl, ?_⟩, ⟨rfl, ?_⟩, ⟨rfl, ?_⟩, ⟨rfl, ?_⟩, ⟨rfl, ?_⟩, nofun⟩
  all_goals
    exact ⟨.of_length (List.forall_mem_ne'.mpr (by decide)) (by decide), by decide, by decide⟩

theorem findAll_shelf :
    (findAll ⟨"/shelf/"⟩ Suffix.feature : StateM Session (Except Fault (List Path))) shelf
      = (.ok [⟨"/shelf/a.feature"⟩, ⟨"/shelf/b.feature"⟩], shelf) := by
  have hlocate : shelf.tree.locate ⟨"/shelf/"⟩ = .ok ["shelf"] := by rfl
  -- they are listed in another order
  have hfiles : (((shelf.tree.namesWithin ["shelf"]).map fun name =>
        Path.join ⟨"/shelf/"⟩ ⟨name⟩).filter
          (·.stem? Suffix.feature |>.isSome)).filter shelf.tree.findsFile
      = [⟨"/shelf/b.feature"⟩, ⟨"/shelf/a.feature"⟩] := by decide +kernel
  have hle : Path.le ⟨"/shelf/b.feature"⟩ ⟨"/shelf/a.feature"⟩ = false := by decide +kernel
  rw [findAll_of_locate hlocate rfl, hfiles]
  simp [List.mergeSort, hle]

/-- All of them, with an input named in another way than it is found, and one
that is not there named in two ways. -/
theorem select_outcome_shelf :
    (shelf.tree.WellFormed ∧ shelf.tree.ListsOnce)
      ∧ let named := ["./a", "new", "b.feature", "/shelf/./new.feature"]
        let answer := (select ⟨"/shelf/"⟩ Suffix.feature true named
          : StateM Session (Except Fault (List Path))) shelf
        answer.1 = .ok [⟨"/shelf/a.feature"⟩, ⟨"/shelf/b.feature"⟩, ⟨"/shelf/new.feature"⟩]
          ∧ answer.2 = shelf
          ∧ (answer.1 = .error (.notFound ⟨"/shelf/"⟩)
            ↔ true = true ∧ shelf.tree.find? ⟨"/shelf/"⟩ ≠ some .directory)
          ∧ (¬ (true = true ∧ shelf.tree.find? ⟨"/shelf/"⟩ ≠ some .directory) →
            ∃ found inputs, answer.1 = .ok inputs
              ∧ IsSelection shelf.tree ⟨"/shelf/"⟩ Suffix.feature true named found inputs) := by
  have honce : shelf.tree.ListsOnce := by
    rw [FileTree.ListsOnce]
    decide
  refine ⟨⟨wellFormed_shelf, honce⟩, ?_, select_outcome wellFormed_shelf honce _ _ _ _⟩
  rw [select_of_findAll findAll_shelf]
  exact congrArg Except.ok (by decide +kernel)

end Inputs

/-! ## Trees along a run -/

/-- **A tree goes on listing each place once.** -/
def FileTree.KeepsListing (before after : FileTree) : Prop :=
  before.ListsOnce → after.ListsOnce

open FileTree

instance : IsPreorder FileTree KeepsListing where
  refl _ h := h
  trans _ _ _ h h' honce := h' (h honce)

theorem Stage.keepsListing_process (stage : Stage) (layout : Layout) (options : WriteOptions)
    (path : Path) : Session.Relates KeepsListing (stage.process layout options path) := by
  have hdirectories : AllowsDirectories KeepsListing :=
    fun _ _ _ hmake h => h.of_makeDirectory hmake
  refine relates_process (fun _ _ => ?_) hdirectories
    (fun _ _ _ hwrite h => h.of_writeBytes hwrite) options
  exact {
    discard := fun _ _ _ _ hremove h => h.of_removeFile hremove
    place := fun _ _ _ _ hmove h => h.of_moveFile hmove
    directories := fun _ _ _ _ => hdirectories.making _
    stage := fun _ _ _ _ _ hwrite h => h.of_writeBytes hwrite }

/-- **From what a run leaves, inputs can be selected again**, whatever was
asked for. -/
theorem Invocation.keepsListing_run (invocation : Invocation) (session : Session) :
    KeepsListing session.tree (invocation.treeAfter session) := by
  refine relates_run fun job hjob input _ => ?_
  have hkeeps (stage : Stage) := Stage.keepsListing_process stage invocation.layout
    invocation.command.options input
  rcases job_cases hjob with ⟨_, classifier, -, rfl⟩ | ⟨_, _, _, -, rfl⟩
  · exact hkeeps (.understanding classifier)
  · exact hkeeps (.writing Lexicon.nouns)

end Playscript
