import Playscript.Proofs.Output.Failure
import Playscript.Proofs.Output.Steps

/-!
# What writing under certain names leaves

The files that are written can be told by their names, and so can the hidden
siblings that are there in between. Three things follow for whatever is read
later. What has other names is spared; what is found stays found, unless it
is a hidden sibling; and a directory has the same files of other names as
before, in the same order, though there may be new directories among them
(`FileTree.Advances`).

The last is said with lists and not with sets, since it is in the order in
which a disk gives the names of a directory that inputs are found.
-/

namespace Playscript

namespace FileTree

/-- Whether the last name of a location is one of some kind. -/
def EndsIn (kind : String → Bool) (location : Location) : Prop :=
  ∃ name ∈ location.head?, kind name = true

/-- Whether a name could be that of a hidden sibling. -/
def isHidden (name : String) : Bool :=
  ".tmp".toList.isSuffixOf name.toList

/-- Whether a file is at a location. -/
def isFileAt (tree : FileTree) (location : Location) : Bool :=
  match tree.at? location with
  | some (.file _) => true
  | _ => false

/-- **The names of the files directly within a location**, but for those of
some kind. -/
def filesWithin (kind : String → Bool) (tree : FileTree) (dir : Location) : List String :=
  (tree.namesWithin dir).filter fun name => !kind name && tree.isFileAt (name :: dir)

/-- **Nothing happened but writing under names of some kind.** -/
structure Advances (kind : String → Bool) (before after : FileTree) : Prop where
  /-- All other names are spared. -/
  spares : Spares (EndsIn kind) before after
  /-- What is there stays there, but for hidden siblings. -/
  there : ∀ location, ¬ EndsIn isHidden location → (before.at? location).isSome →
    (after.at? location).isSome
  /-- The files of other names are the same. -/
  files : ∀ dir, after.filesWithin kind dir = before.filesWithin kind dir

variable {kind : String → Bool} {tree : FileTree} {location : Location}

instance : IsPreorder FileTree (Advances kind) where
  refl tree := ⟨.refl _ tree, fun _ _ h => h, fun _ => rfl⟩
  trans _ _ _ h h' := ⟨h.spares.trans h'.spares,
    fun location hout hsome => h'.there location hout (h.there location hout hsome),
    fun dir => (h'.files dir).trans (h.files dir)⟩

/-! ## Listing -/

/-- The names within a location, after the entry of another was left out. -/
theorem filter_namesWithin_erase {dir : Location} {keep keep' : String → Bool}
    (hself : ∀ name, name :: dir = location → keep name = false)
    (hother : ∀ name, name :: dir ≠ location → keep' name = keep name) :
    ((tree.erase location).namesWithin dir).filter keep' = (tree.namesWithin dir).filter keep := by
  rw [namesWithin, namesWithin, erase]
  induction tree.entries with
  | nil => rfl
  | cons entry entries ih =>
    obtain ⟨place, node⟩ := entry
    rw [List.filter_cons, List.filterMap_cons]
    cases place with
    | nil =>
      dsimp only
      split <;> exact ih
    | cons name above =>
      dsimp only
      by_cases hdir : above = dir
      · subst hdir
        rw [if_pos rfl]
        by_cases he : name :: above = location
        · rw [if_neg (by simpa using he), ih, List.filter_cons, hself name he,
            if_neg Bool.false_ne_true]
        · rw [if_pos (by simpa using he), List.filterMap_cons]
          dsimp only
          rw [if_pos rfl, List.filter_cons, List.filter_cons, hother name he, ih]
      · rw [if_neg hdir]
        split
        · rw [List.filterMap_cons]
          dsimp only
          rw [if_neg hdir]
          exact ih
        · exact ih

theorem filter_namesWithin_put {dir : Location} {keep keep' : String → Bool}
    (hself : ∀ name, name :: dir = location → keep name = false ∧ keep' name = false)
    (hother : ∀ name, name :: dir ≠ location → keep' name = keep name) (node : Node) :
    ((tree.put location node).namesWithin dir).filter keep'
      = (tree.namesWithin dir).filter keep := by
  have herase : ((tree.erase location).namesWithin dir).filter keep' = _ :=
    filter_namesWithin_erase (fun name he => (hself name he).1) hother
  rw [← herase]
  rw [namesWithin, namesWithin, put, erase, List.filterMap_cons]
  cases location with
  | nil => rfl
  | cons name above =>
    dsimp only
    by_cases hdir : above = dir
    · rw [if_pos hdir]
      dsimp only
      rw [List.filter_cons, (hself name (by rw [hdir])).2, if_neg Bool.false_ne_true]
    · rw [if_neg hdir]

/-! ## Steps -/

theorem isSome_at?_put {other : Location} (h : (tree.at? other).isSome) (node : Node) :
    ((tree.put location node).at? other).isSome := by
  by_cases he : other = location
  · cases location with
    | nil =>
      rw [he]
      rfl
    | cons name dir =>
      rw [he, tree.at?_put_self (List.cons_ne_nil _ _)]
      rfl
  · rwa [tree.at?_put_of_ne he]

theorem isFileAt_put_of_ne {other : Location} (h : other ≠ location) (node : Node) :
    (tree.put location node).isFileAt other = tree.isFileAt other := by
  rw [isFileAt, isFileAt, tree.at?_put_of_ne h]

/-- A location that ends in a kind of name has such a name. -/
theorem kind_of_endsIn {name : String} {dir : Location} (h : EndsIn kind location)
    (he : name :: dir = location) : kind name = true := by
  obtain ⟨last, hlast, hkind⟩ := h
  rw [← he] at hlast
  rwa [Option.some.inj hlast]

namespace Advances

/-- A directory made where nothing was. -/
theorem put_directory (h : tree.at? location = none) :
    Advances kind tree (tree.put location .directory) := by
  have hne : location ≠ [] := by
    rintro rfl
    cases h
  refine ⟨.put_directory h, fun other _ hsome => isSome_at?_put hsome _, fun dir => ?_⟩
  refine filter_namesWithin_put (fun name he => ?_) (fun name he => ?_) _
  · rw [he, isFileAt, isFileAt, h, tree.at?_put_self hne]
    exact ⟨Bool.and_false _, Bool.and_false _⟩
  · rw [isFileAt_put_of_ne he]

/-- A file written under a name of the kind. -/
theorem put_file (hname : EndsIn kind location) (hkind : tree.at? location ≠ some .directory)
    (bytes : ByteArray) : Advances kind tree (tree.put location (.file bytes)) := by
  refine ⟨.put hname hkind _, fun other _ hsome => isSome_at?_put hsome _, fun dir => ?_⟩
  refine filter_namesWithin_put (fun name he => ?_) (fun name he => ?_) _
  · rw [kind_of_endsIn hname he]
    exact ⟨rfl, rfl⟩
  · rw [isFileAt_put_of_ne he]

/-- A hidden sibling taken away. -/
theorem erase (hname : EndsIn kind location) (hhidden : EndsIn isHidden location)
    (hkind : tree.at? location ≠ some .directory) : Advances kind tree (tree.erase location) := by
  refine ⟨.erase hname hkind, fun other hout hsome => ?_, fun dir => ?_⟩
  · have hne : other ≠ location := by
      rintro rfl
      exact hout hhidden
    rwa [tree.at?_erase_of_ne hne]
  · refine filter_namesWithin_erase (fun name he => ?_) fun name he => ?_
    · rw [kind_of_endsIn hname he]
      rfl
    · rw [isFileAt, isFileAt, tree.at?_erase_of_ne he]

end Advances

theorem allowsDirectories_advances : AllowsDirectories (Advances kind) := by
  intro tree path after h
  obtain ⟨hnone, rfl⟩ := of_makeDirectory h
  exact .put_directory hnone

/-- A file that is written under a name. -/
theorem advances_writeBytes {path : Path} {name : String} (hname : path.fileName? = some name)
    (hkind : kind name = true) {bytes : ByteArray} {after : FileTree}
    (h : tree.writeBytes path bytes = .ok after) : Advances kind tree after := by
  obtain ⟨hdirectory, rfl⟩ := of_writeBytes h
  obtain ⟨dir, haim, -⟩ := Output.exists_aim_eq_cons tree.workDir hname
  rw [haim] at hdirectory ⊢
  exact .put_file ⟨name, rfl, hkind⟩ hdirectory bytes

/-- **A target that is written under names of a kind**, and so is its hidden
sibling. -/
structure IsNamedTo (kind : String → Bool) (target : Path) : Prop where
  /-- Its name is of the kind. -/
  name : ∃ name, target.fileName? = some name ∧ kind name = true ∧ isHidden name = false
  /-- So are the names of hidden siblings. -/
  hidden : ∀ name, isHidden name = true → kind name = true

theorem isHidden_staging (name : String) : isHidden ("." ++ name ++ ".tmp") = true := by
  rw [isHidden, List.isSuffixOf_iff_suffix, String.toList_append]
  exact List.suffix_append _ _

/-- **Writing to targets of some names** is nothing but that. -/
theorem allows_advances {targets : List Path} (h : ∀ target ∈ targets, IsNamedTo kind target) :
    Output.Allows (Advances kind) targets := by
  have hstaging {target : Path} (hm : target ∈ targets) (workDir : Location) :
      EndsIn kind (aim workDir (stagingOf target))
        ∧ EndsIn isHidden (aim workDir (stagingOf target)) := by
    obtain ⟨⟨name, hname, -, -⟩, hhidden⟩ := h target hm
    obtain ⟨dir, -, haim⟩ := Output.exists_aim_eq_cons workDir hname
    rw [haim]
    exact ⟨⟨_, rfl, hhidden _ (isHidden_staging name)⟩, ⟨_, rfl, isHidden_staging name⟩⟩
  exact {
    discard := fun target hm tree after hop => by
      obtain ⟨hkind, rfl⟩ := of_removeFile hop
      exact .erase (hstaging hm _).1 (hstaging hm _).2 hkind
    place := fun target hm tree after hop => by
      obtain ⟨bytes, hfile, hkind, rfl⟩ := of_moveFile hop
      have hsource := ne_directory_of_file hfile
      obtain ⟨⟨name, hname, hwritten, -⟩, -⟩ := h target hm
      obtain ⟨dir, haim, -⟩ := Output.exists_aim_eq_cons tree.workDir hname
      refine trans_of _ (Advances.erase (hstaging hm _).1 (hstaging hm _).2 hsource)
        (.put_file (haim ▸ ⟨name, rfl, hwritten⟩) ?_ bytes)
      rwa [tree.at?_erase_of_ne (Output.aim_stagingOf_ne tree.workDir target).symm]
    directories := fun _ _ _ _ => allowsDirectories_advances.making _
    stage := fun target hm tree bytes after hop => by
      obtain ⟨hkind, rfl⟩ := of_writeBytes hop
      exact .put_file (hstaging hm _).1 hkind bytes }

end FileTree

end Playscript
