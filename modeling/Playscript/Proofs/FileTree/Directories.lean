import Playscript.Proofs.FileTree.Walk

/-!
# Making directories

Directories are made from the innermost outwards, but only as far as they are
missing. That comes to the same as making them from the outermost inwards
(`FileTree.WellFormed.makeFirst_eq`), which is the order in which one thinks of
it, and the one that goes along with induction on the names of a path. There
are three causes to tell apart: a directory is missing on the way, and then it
is made by definition; all of them are there; or the way is blocked, and then
it is blocked already for the path above.
-/

namespace Playscript

namespace FileTree

open Playscript.Path

variable {tree : FileTree} {path : Path} {location : Location}

/-- A tidy path has no slashes at its end. -/
theorem withoutSlashes_of_isTidy (h : path.IsTidy) : withoutSlashes path = path := by
  rcases h with htop | htidy
  · obtain rfl : path = ⟨"/"⟩ := congrArg Path.mk htop
    rfl
  rw [withoutSlashes]
  rcases List.eq_nil_or_concat' path.text.toList with hnil | ⟨front, last, hlast⟩
  · rw [hnil]
    exact if_pos rfl
  · have hcut : decide (last = '/') = false := by
      refine decide_eq_false fun hslash => ?_
      have hparts : path.parts = Text.pieces (· = '/') front ++ [[]] := by
        rw [parts, hlast, hslash]
        exact Text.pieces_append_cons front rfl []
      obtain ⟨first, others, hpieces⟩ := Text.exists_pieces_eq_cons (· = '/') front
      rw [hparts, hpieces, List.cons_append, List.tail_cons] at htidy
      cases isSilent_eq_false_of_concat htidy
    have htrim : Text.trimEnd (· = '/') path.text.toList = path.text.toList := by
      rw [hlast]
      exact List.rdropWhile_concat_neg _ front last (by rw [hcut]; exact Bool.false_ne_true)
    have hne : path.text.toList ≠ [] := by
      rw [hlast]
      exact List.append_ne_nil_of_right_ne_nil _ (List.cons_ne_nil _ _)
    rw [htrim, if_neg hne, String.ofList_toList]

theorem ancestorsUpTo_eq_cons (count : Nat) (path : Path) :
    ∃ above, path.ancestorsUpTo count = path :: above := by
  cases count with
  | zero => exact ⟨[], rfl⟩
  | succ count =>
    rw [ancestorsUpTo]
    split
    · exact ⟨[], rfl⟩
    · exact ⟨_, rfl⟩

/-- What it is to make a directory under a tidy path. -/
theorem makeDirectory_eq (htidy : path.IsTidy) (tree : FileTree) :
    (Disk.makeDirectory path : StateM FileTree (Except DiskError Unit)) tree
      = match tree.locate path with
        | .error error => (.error error, tree)
        | .ok location =>
          match tree.at? location with
          | some _ => (.error .wrongKind, tree)
          | none => (.ok (), tree.put location .directory) := by
  show change (·.makeDirectory path) tree = _
  rw [change, makeDirectory, withoutSlashes_of_isTidy htidy]
  cases tree.locate path with
  | error error => rfl
  | ok location =>
    dsimp only [bind, Except.bind]
    cases tree.at? location <;> rfl

theorem isDirectory_eq (tree : FileTree) (path : Path) :
    (Disk.isDirectory path : StateM FileTree Bool) tree
      = (match tree.find? path with | some .directory => true | _ => false, tree) := rfl

/-- What it is to make a directory unless it is there. -/
theorem makeUnlessThere_eq (htidy : path.IsTidy) (tree : FileTree) :
    (Disk.makeUnlessThere path : StateM FileTree (Except DiskError Unit)) tree
      = match tree.locate path with
        | .error error => (.error error, tree)
        | .ok location =>
          match tree.at? location with
          | none => (.ok (), tree.put location .directory)
          | some .directory => (.ok (), tree)
          | some (.file _) => (.error .wrongKind, tree) := by
  have hmake := makeDirectory_eq htidy tree
  have hlook := isDirectory_eq tree path
  rw [find?] at hlook
  rw [Disk.makeUnlessThere]
  cases hlocate : tree.locate path with
  | error error =>
    rw [hlocate] at hmake hlook
    rw [run_bind hmake]
    exact run_bind hlook _
  | ok place =>
    rw [hlocate] at hmake hlook
    dsimp only at hmake hlook ⊢
    cases hthere : tree.at? place with
    | none =>
      rw [hthere] at hmake
      exact run_bind hmake _
    | some node =>
      rw [hthere] at hmake hlook
      rw [run_bind hmake]
      cases node <;> exact run_bind hlook _

/-- **A directory that is there is not made again.** -/
theorem WellFormed.makeFirst_of_directory (h : tree.WellFormed) (hpath : path.IsWalkable)
    (hdirectory : tree.at? (aim tree.workDir path) = some .directory) (above : List Path) :
    (Disk.makeFirst (path :: above) : StateM FileTree (Except DiskError Unit)) tree
      = (.ok (), tree) := by
  rw [Disk.makeFirst]
  by_cases hnone : path.components = []
  · rw [if_pos hnone]
    rfl
  · rw [if_neg hnone]
    have hlocate : tree.locate path = .ok (aim tree.workDir path) := by
      rw [h.locate_of_isWalkable hpath (text_ne_empty hnone)]
      rw [aim_of_isStraight _ hpath.straight] at hdirectory ⊢
      exact h.walk_of_directory hdirectory
    have hmake : (Disk.makeDirectory path : StateM FileTree (Except DiskError Unit)) tree
        = (.error .wrongKind, tree) := by
      rw [makeDirectory_eq hpath.tidy, hlocate]
      dsimp only
      rw [hdirectory]
    have hlook : (Disk.isDirectory path : StateM FileTree Bool) tree = (true, tree) := by
      rw [isDirectory_eq, find?_of_locate hlocate, hdirectory]
    rw [run_bind hmake]
    exact run_bind hlook _

/-- What cannot be made, though nothing is missing on the way, fails. -/
theorem makeFirst_of_error {error : DiskError} (hcomponents : path.components ≠ [])
    (hmake : (Disk.makeDirectory path : StateM FileTree (Except DiskError Unit)) tree
      = (.error error, tree)) (herror : error ≠ .missing)
    (hfind : tree.find? path ≠ some .directory) (above : List Path) :
    (Disk.makeFirst (path :: above) : StateM FileTree (Except DiskError Unit)) tree
      = (.error error, tree) := by
  have hlook : (Disk.isDirectory path : StateM FileTree Bool) tree = (false, tree) := by
    rw [isDirectory_eq]
    split
    · next hdirectory => exact absurd hdirectory hfind
    · rfl
  rw [Disk.makeFirst, if_neg hcomponents, run_bind hmake]
  cases error with
  | missing => exact absurd rfl herror
  | _ => exact run_bind hlook _

/-- Makes a directory when those of a list have been made. -/
def makeBehind (above : List Path) (path : Path) : StateM FileTree (Except DiskError Unit) := do
  match ← Disk.makeFirst above with
  | .ok () => Disk.makeUnlessThere path
  | .error error => return .error error

section Behind

variable {above : List Path}

/-- What cannot be made because something is missing on the way. -/
theorem makeFirst_of_missing (hcomponents : path.components ≠ [])
    (hmake : (Disk.makeDirectory path : StateM FileTree (Except DiskError Unit)) tree
      = (.error .missing, tree)) :
    (Disk.makeFirst (path :: above) : StateM FileTree (Except DiskError Unit)) tree
      = makeBehind above path tree := by
  rw [Disk.makeFirst, if_neg hcomponents]
  exact run_bind hmake _

/-- What is made, or cannot be for another cause, where all above it is
there. -/
theorem makeFirst_of_above (hcomponents : path.components ≠ [])
    (habove : (Disk.makeFirst above : StateM FileTree (Except DiskError Unit)) tree
      = (.ok (), tree))
    (hmake : ((Disk.makeDirectory path : StateM FileTree (Except DiskError Unit)) tree).1
      ≠ .error .missing) :
    (Disk.makeFirst (path :: above) : StateM FileTree (Except DiskError Unit)) tree
      = makeBehind above path tree := by
  rw [makeBehind, run_bind habove, Disk.makeFirst, if_neg hcomponents]
  show _ = (Disk.makeUnlessThere path : StateM FileTree (Except DiskError Unit)) tree
  rw [Disk.makeUnlessThere]
  rcases hmade : (Disk.makeDirectory path : StateM FileTree (Except DiskError Unit)) tree
    with ⟨made, after⟩
  rw [run_bind hmade, run_bind hmade]
  rw [hmade] at hmake
  cases made with
  | ok _ => rfl
  | error error =>
    cases error with
    | missing => exact absurd rfl hmake
    | _ => rfl

/-- What cannot be made for a cause for which that above it cannot be made. -/
theorem makeFirst_of_refused {parent : Path} {rest : List Path} {error : DiskError}
    (herror : error ≠ .missing) (hcomponents : path.components ≠ [])
    (hmake : (Disk.makeDirectory path : StateM FileTree (Except DiskError Unit)) tree
      = (.error error, tree))
    (hfind : tree.find? path ≠ some .directory) (hparentComponents : parent.components ≠ [])
    (hparentMake : (Disk.makeDirectory parent : StateM FileTree (Except DiskError Unit)) tree
      = (.error error, tree))
    (hparentFind : tree.find? parent ≠ some .directory) :
    (Disk.makeFirst (path :: parent :: rest) : StateM FileTree (Except DiskError Unit)) tree
      = makeBehind (parent :: rest) path tree := by
  rw [makeFirst_of_error hcomponents hmake herror hfind, makeBehind,
    run_bind (makeFirst_of_error hparentComponents hparentMake herror hparentFind rest)]
  rfl

/-- What is blocked on the way, by a file or otherwise than by what is missing,
is blocked for the path above. -/
theorem makeFirst_of_blocked {parent : Path} {rest : List Path} {error : DiskError}
    (herror : error ≠ .missing) (hcomponents : path.components ≠ []) (htidy : path.IsTidy)
    (hlocate : tree.locate path = .error error) (hparentComponents : parent.components ≠ [])
    (hparentTidy : parent.IsTidy)
    (hblocked : tree.locate parent = .error error
      ∨ error = .wrongKind ∧ ∃ place bytes, tree.locate parent = .ok place
        ∧ tree.at? place = some (.file bytes)) :
    (Disk.makeFirst (path :: parent :: rest) : StateM FileTree (Except DiskError Unit)) tree
      = makeBehind (parent :: rest) path tree := by
  have hmake := makeDirectory_eq htidy tree
  rw [hlocate] at hmake
  have hfind : tree.find? path ≠ some .directory := by
    rw [find?, hlocate]
    exact fun hfound => by cases hfound
  refine makeFirst_of_refused herror hcomponents hmake hfind hparentComponents ?_ ?_
  · rw [makeDirectory_eq hparentTidy]
    rcases hblocked with hparent | ⟨rfl, place, bytes, hparent, hfile⟩
    · rw [hparent]
    · rw [hparent]
      dsimp only
      rw [hfile]
  · rw [find?]
    rcases hblocked with hparent | ⟨-, place, bytes, hparent, hfile⟩
    · rw [hparent]
      exact fun hfound => by cases hfound
    · rw [hparent]
      dsimp only
      rw [hfile]
      exact fun hfound => by cases hfound

end Behind

section Above

variable {front : List String} {name : String} {parent : Path}

/-- What is made, or cannot be for another cause than a missing directory, where
the path above leads to a directory. -/
theorem WellFormed.makeFirst_of_open (h : tree.WellFormed) (hpath : path.IsWalkable)
    (hnames : path.names = front ++ [name]) (hparent : path.parent? = some parent)
    (hopen : tree.at? (front.reverse ++ origin tree.workDir path) = some .directory)
    (rest : List Path) :
    (Disk.makeFirst (path :: parent :: rest) : StateM FileTree (Except DiskError Unit)) tree
      = makeBehind (parent :: rest) path tree := by
  have hparentOpen : tree.at? (aim tree.workDir parent) = some .directory :=
    aim_parent hpath hnames hparent _ ▸ hopen
  refine makeFirst_of_above (components_ne_nil_of_names hnames)
    (h.makeFirst_of_directory (hpath.parent hnames hparent).1 hparentOpen rest) ?_
  rw [makeDirectory_eq hpath.tidy, h.locate_of_open hpath hnames hopen]
  by_cases hshort : isName name = true
  · rw [if_pos hshort]
    dsimp only
    split <;> exact nofun
  · rw [if_neg hshort]
    exact nofun

/-- **Directories are made from the outermost inwards**: first those above a
path, and then the one it leads to. -/
theorem WellFormed.makeFirst_eq (h : tree.WellFormed) (hpath : path.IsWalkable)
    (hnames : path.names = front ++ [name]) (hparent : path.parent? = some parent)
    (count : Nat) :
    (Disk.makeFirst (path :: parent.ancestorsUpTo count)
        : StateM FileTree (Except DiskError Unit)) tree
      = makeBehind (parent.ancestorsUpTo count) path tree := by
  have hcomponents := components_ne_nil_of_names hnames
  have hlocate := h.locate_eq_enterName hpath hnames
  obtain ⟨hwalkable, hfront, -⟩ := hpath.parent hnames hparent
  have hparentComponents (hne : front ≠ []) : parent.components ≠ [] :=
    components_ne_nil (hfront ▸ hne)
  obtain ⟨rest, hancestors⟩ := ancestorsUpTo_eq_cons count parent
  rw [hancestors]
  cases hwalk : tree.walk (origin tree.workDir path) front with
  | error error =>
    rw [hwalk] at hlocate
    change tree.locate path = .error error at hlocate
    by_cases hcause : error = .missing
    · refine makeFirst_of_missing hcomponents ?_
      rw [makeDirectory_eq hpath.tidy, hlocate, hcause]
    · have hne : front ≠ [] := by
        rintro rfl
        cases hwalk
      exact makeFirst_of_blocked hcause hcomponents hpath.tidy hlocate (hparentComponents hne)
        hwalkable.tidy (.inl ((h.locate_parent hpath hnames hparent hne).trans hwalk))
  | ok place =>
    rw [hwalk] at hlocate
    change tree.locate path = tree.enterName place name at hlocate
    cases hthere : tree.at? place with
    | none =>
      refine makeFirst_of_missing hcomponents ?_
      rw [makeDirectory_eq hpath.tidy, hlocate, enterName, checkDirectory, hthere]
      rfl
    | some node =>
      cases node with
      | directory =>
        rw [eq_of_walk hwalk] at hthere
        exact h.makeFirst_of_open hpath hnames hparent hthere rest
      | file bytes =>
        -- what names are walked from is a directory, so a name leads to this file
        have hne : front ≠ [] := by
          rintro rfl
          rw [eq_of_walk hwalk] at hthere
          cases hthere.symm.trans (h.at?_origin path)
        rw [enterName, checkDirectory, hthere] at hlocate
        exact makeFirst_of_blocked (by decide) hcomponents hpath.tidy hlocate
          (hparentComponents hne) hwalkable.tidy (.inr ⟨rfl, place, bytes,
            (h.locate_parent hpath hnames hparent hne).trans hwalk, hthere⟩)

end Above

end FileTree

end Playscript
