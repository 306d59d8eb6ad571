import Playscript.Inputs
import Playscript.Proofs.FileTree.Advance
import Playscript.Proofs.FileTree.Found
import Playscript.Proofs.FileTree.Listing
import Playscript.Proofs.Path.Names
import Playscript.Proofs.Session.Effects

/-!
# Inputs are found again

The inputs of a directory are its files with names that end in a suffix. As
long as files are only written under names that do not, the same inputs are
found, in the same order (`Inputs.select_of_advances`). This is so for a
directory in which outputs are written as well, and even if a directory is
made in it whose name looks like that of an input.
-/

namespace Playscript

namespace FileTree

variable {tree : FileTree} {dir : Path} {location : Location} {name : String}

/-! ## Within a directory -/

theorem head?_joint (h : dir.text ≠ "") : (joint dir).head? = dir.text.toList.head? := by
  have hne : dir.text.toList ≠ [] := fun he => h (String.toList_eq_nil_iff.mp he)
  rw [joint]
  split
  · rfl
  · exact List.head?_append_of_ne_nil _ hne

/-- **An entry of a directory is found** by its name behind a path to the
directory. -/
theorem locate_join_of_directory (h : tree.locate dir = .ok location)
    (hdirectory : tree.at? location = some .directory) (hname : IsUsable name) :
    tree.locate (dir.join ⟨name⟩) = .ok (name :: location) := by
  obtain ⟨hnull, hne, hfollow⟩ := locate_eq_ok_iff.mp h
  have hstart : dir.start.foldl enter tree.workDir
      = if (joint dir).head? = some '/' then [] else tree.workDir := by
    rw [foldl_enter_start, head?_joint hne, Path.isAbsolute]
    simp only [decide_eq_true_eq]
  rw [locate_join dir hname.entry, if_neg, ← hstart, followAll_partsInFront hfollow]
  · exact (follow_of_isEntry hdirectory hname.entry).trans (if_pos hname.short)
  · intro hmem
    rcases List.mem_append.mp hmem with hmem | hmem
    · rcases mem_joint hmem with hmem | hslash
      · exact hnull hmem
      · exact absurd hslash (by decide)
    · exact hname.null hmem

/-- Whether a path leads to a file. -/
def findsFile (tree : FileTree) (path : Path) : Bool :=
  match tree.find? path with
  | some (.file _) => true
  | _ => false

theorem findsFile_join (h : tree.locate dir = .ok location)
    (hdirectory : tree.at? location = some .directory) (hname : IsUsable name) :
    tree.findsFile (dir.join ⟨name⟩) = tree.isFileAt (name :: location) := by
  rw [findsFile, find?, locate_join_of_directory h hdirectory hname]
  rfl

/-- A directory that is found is where its path leads. -/
theorem exists_locate_of_directory (h : tree.find? dir = some .directory) :
    ∃ location, tree.locate dir = .ok location ∧ tree.at? location = some .directory := by
  rw [find?] at h
  cases hlocate : tree.locate dir with
  | error error =>
    rw [hlocate] at h
    cases h
  | ok location =>
    rw [hlocate] at h
    exact ⟨location, rfl, h⟩

end FileTree

namespace Inputs

open FileTree Session

variable {kind : String → Bool} {dir : Path} {suffix : String} {location : Location}

/-- **The files of a directory that are inputs**, in the order of the disk. -/
theorem filter_findsFile_eq {tree : FileTree} (htree : tree.WellFormed)
    (hkind : ∀ name : String, suffix.toList <:+ name.toList → kind name = false)
    (h : tree.locate dir = .ok location) (hdirectory : tree.at? location = some .directory) :
    (((tree.namesWithin location).map fun name => dir.join ⟨name⟩).filter
        (·.stem? suffix |>.isSome)).filter tree.findsFile
      = ((tree.filesWithin kind location).filter
        fun name => ((dir.join ⟨name⟩).stem? suffix).isSome).map fun name => dir.join ⟨name⟩ := by
  rw [List.filter_filter, List.filter_map, filesWithin, List.filter_filter]
  refine congrArg (List.map _) (List.filter_congr fun name hm => ?_)
  have hname := htree.names name location (mem_namesWithin_iff.mp hm)
  show (tree.findsFile _ && _) = _
  rw [findsFile_join h hdirectory hname]
  cases hstem : (dir.join ⟨name⟩).stem? suffix with
  | none => exact Bool.and_false _
  | some base =>
    have hlast := Path.fileName?_of_stem? hstem
    rw [Path.fileName?_join dir hname.entry] at hlast
    have hother : kind name = false := by
      refine hkind name ?_
      rw [Option.some.inj hlast, String.toList_append]
      exact List.suffix_append _ _
    rw [hother]
    exact (Bool.and_true _).trans rfl

theorem onlyFiles_eq (paths : List Path) (session : Session) :
    (onlyFiles paths : StateM Session (List Path)) session
      = (paths.filter session.tree.findsFile, session) := by
  induction paths with
  | nil => rfl
  | cons path paths ih =>
    have hlook : (Disk.isFile path : StateM Session Bool) session
        = (session.tree.findsFile path, session) := rfl
    rw [onlyFiles, run_bind ih, run_bind hlook, List.filter_cons]
    cases session.tree.findsFile path <;> rfl

theorem isDirectory_eq_of_session (session : Session) (dir : Path) :
    (Disk.isDirectory dir : StateM Session Bool) session
      = (match session.tree.find? dir with | some .directory => true | _ => false, session) := rfl

/-- **All inputs of a directory**, if it is one. -/
theorem findAll_of_locate {session : Session} (h : session.tree.locate dir = .ok location)
    (hdirectory : session.tree.at? location = some .directory) :
    (findAll dir suffix : StateM Session (Except Fault (List Path))) session
      = (.ok (((((session.tree.namesWithin location).map fun name => dir.join ⟨name⟩).filter
          (·.stem? suffix |>.isSome)).filter session.tree.findsFile).mergeSort Path.le),
        session) := by
  have hlook : (Disk.isDirectory dir : StateM Session Bool) session = (true, session) := by
    rw [isDirectory_eq_of_session, find?, h]
    dsimp only
    rw [hdirectory]
  have hnames : (Disk.names dir : StateM Session (Except DiskError (List String))) session
      = (.ok (session.tree.namesWithin location), session) := by
    show (session.tree.names dir, session) = _
    rw [names, h]
    show ((do session.tree.checkDirectory location; _ : Except DiskError _), session) = _
    rw [checkDirectory_eq_ok_iff.mpr hdirectory]
    rfl
  rw [findAll, run_bind hlook, if_pos rfl, run_bind hnames]
  dsimp only
  rw [run_bind (onlyFiles_eq _ session)]
  rfl

/-- Inputs are found in directories only. -/
theorem exists_locate_of_findAll {session : Session} {paths : List Path}
    (h : ((findAll dir suffix : StateM Session (Except Fault (List Path))) session).1
      = .ok paths) :
    ∃ location, session.tree.locate dir = .ok location
      ∧ session.tree.at? location = some .directory := by
  rw [findAll, run_bind (isDirectory_eq_of_session session dir)] at h
  split at h
  · next hfound => exact exists_locate_of_directory hfound
  · cases h

variable {before after : Session}

/-- **Writing under other names does not change the inputs of a directory.** -/
theorem findAll_of_advances (hbefore : before.tree.WellFormed) (hafter : after.tree.WellFormed)
    (h : Advances kind before.tree after.tree)
    (hkind : ∀ name : String, suffix.toList <:+ name.toList → kind name = false)
    {paths : List Path}
    (hfound : ((findAll dir suffix : StateM Session (Except Fault (List Path))) before).1
      = .ok paths) :
    ((findAll dir suffix : StateM Session (Except Fault (List Path))) after).1 = .ok paths := by
  obtain ⟨location, hlocate, hdirectory⟩ := exists_locate_of_findAll hfound
  have hlocate' := locate_of_spares h.spares hlocate
  have hdirectory' := h.spares.directories location hdirectory
  rw [findAll_of_locate hlocate hdirectory,
    filter_findsFile_eq hbefore hkind hlocate hdirectory] at hfound
  rw [findAll_of_locate hlocate' hdirectory',
    filter_findsFile_eq hafter hkind hlocate' hdirectory', h.files]
  exact hfound

/-- **The same inputs are selected again.** -/
theorem select_of_advances (hbefore : before.tree.WellFormed) (hafter : after.tree.WellFormed)
    (h : Advances kind before.tree after.tree)
    (hkind : ∀ name : String, suffix.toList <:+ name.toList → kind name = false)
    {all : Bool} {named : List String} {inputs : List Path}
    (hselect : ((select dir suffix all named : StateM Session (Except Fault (List Path)))
      before).1 = .ok inputs) :
    ((select dir suffix all named : StateM Session (Except Fault (List Path))) after).1
      = .ok inputs := by
  rw [select] at hselect ⊢
  split
  · next hall =>
    rw [if_pos hall, (readsOnly_findAll dir suffix).run_bind] at hselect
    rw [(readsOnly_findAll dir suffix).run_bind]
    cases hfound : ((findAll dir suffix : StateM Session (Except Fault (List Path))) before).1 with
    | error fault =>
      rw [hfound] at hselect
      cases hselect
    | ok paths =>
      rw [hfound] at hselect
      rw [findAll_of_advances hbefore hafter h hkind hfound]
      exact hselect
  · next hnamed =>
    rw [if_neg hnamed] at hselect
    exact hselect

end Inputs

end Playscript
