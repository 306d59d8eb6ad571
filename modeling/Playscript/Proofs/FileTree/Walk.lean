import Playscript.Proofs.FileTree.Found
import Playscript.Proofs.FileTree.WellFormed
import Playscript.Proofs.Path.Straight

/-!
# Walking straight on

A path that never leads up walks from name to name (`FileTree.walk`). In a
tree that can be on a disk, whatever is there is reached that way: all that
leads to it are directories. So whether a file is found by such a path depends
on the place it leads to only (`FileTree.WellFormed.find?_join`), and so does whether an
entry can be put into a directory that is open
(`FileTree.WellFormed.locate_join_of_open`).
-/

namespace Playscript

namespace FileTree

open Playscript.Path

variable {tree : FileTree} {path : Path} {location : Location}

/-! ## Where straight paths lead -/

/-- The place from which the names of a path lead. -/
def origin (workDir : Location) (path : Path) : Location :=
  path.lead.foldl enter workDir

theorem foldl_enter_map_entry (names : List String) (location : Location) :
    (names.map Component.entry).foldl enter location = names.reverse ++ location := by
  induction names generalizing location with
  | nil => rfl
  | cons name names ih =>
    rw [List.map_cons, List.foldl_cons, ih, List.reverse_cons, List.append_assoc]
    rfl

/-- **A straight path leads to its names** from there. -/
theorem aim_of_isStraight (workDir : Location) (h : path.IsStraight) :
    aim workDir path = path.names.reverse ++ origin workDir path := by
  rw [aim, components_of_isStraight h, List.foldl_append, foldl_enter_map_entry, origin]

/-- What has no name leads from a directory to a directory. -/
theorem WellFormed.at?_foldl_enter (h : tree.WellFormed) {components : List Component}
    (hnone : ∀ component ∈ components, component.name? = none)
    (hdirectory : tree.at? location = some .directory) :
    tree.at? (components.foldl enter location) = some .directory := by
  induction components generalizing location with
  | nil => exact hdirectory
  | cons component components ih =>
    obtain ⟨hfirst, hrest⟩ := List.forall_mem_cons.mp hnone
    refine ih hrest ?_
    cases component with
    | root => rfl
    | here => exact hdirectory
    | up => exact h.at?_tail hdirectory
    | entry name => cases hfirst

/-- The names of a path lead from a directory. -/
theorem WellFormed.at?_origin (h : tree.WellFormed) (path : Path) :
    tree.at? (origin tree.workDir path) = some .directory := by
  refine h.at?_foldl_enter (fun component hm => ?_) h.workDir
  exact Option.isNone_iff_eq_none.mp (List.mem_filter.mp hm).2

/-- What leads to something that is there is a directory, and has a name. -/
theorem WellFormed.of_suffix (h : tree.WellFormed) {name : String} {dir : Location}
    (hsome : (tree.at? location).isSome) (hsuffix : name :: dir <:+ location) :
    tree.at? dir = some .directory ∧ IsUsable name := by
  have hself : (tree.at? (name :: dir)).isSome := by
    by_cases he : name :: dir = location
    · rwa [he]
    · rw [h.at?_of_suffix hsome hsuffix he]
      rfl
  exact ⟨h.parents name dir hself, h.names name dir hself⟩

/-- On the way nothing is left behind. -/
theorem suffix_foldl_enter {parts : List (List Char)} (h : .up ∉ saidBy parts)
    (location : Location) : location <:+ (saidBy parts).foldl enter location := by
  rw [saidBy_eq_map h, foldl_enter_map_entry]
  exact List.suffix_append _ _

/-- **Parts that lead up can be followed** from a directory. -/
theorem WellFormed.followAll_append (h : tree.WellFormed) {front : List (List Char)}
    (hfront : ∀ component ∈ saidBy front, component = .up)
    (hdirectory : tree.at? location = some .directory) (back : List (List Char)) :
    tree.followAll location (front ++ back)
      = tree.followAll ((saidBy front).foldl enter location) back := by
  induction front generalizing location with
  | nil => rfl
  | cons part front ih =>
    rw [saidBy_cons] at hfront ⊢
    obtain ⟨hpart, hrest⟩ := List.forall_mem_append.mp hfront
    rw [List.foldl_append, List.cons_append, followAll, List.foldlM_cons]
    rcases saidBy_cases part with ⟨hsilent, hsaid⟩ | ⟨hspoken, ⟨hup, hsaid⟩ | ⟨-, hsaid⟩⟩
    · rw [follow_of_silent hdirectory hsilent, hsaid]
      exact ih hrest hdirectory
    · rw [follow_of_up hdirectory hspoken hup, hsaid]
      exact ih hrest (h.at?_tail hdirectory)
    · rw [hsaid] at hpart
      cases hpart _ List.mem_cons_self

/-- **A directory is reached** by parts that lead to it. -/
theorem WellFormed.followAll_of_names (h : tree.WellFormed) {parts : List (List Char)}
    (hup : .up ∉ saidBy parts)
    (hdirectory : tree.at? ((saidBy parts).foldl enter location) = some .directory) :
    tree.followAll location parts = .ok ((saidBy parts).foldl enter location) := by
  induction parts generalizing location with
  | nil => rfl
  | cons part parts ih =>
    rw [saidBy_cons, List.mem_append, not_or] at hup
    rw [saidBy_cons, List.foldl_append] at hdirectory ⊢
    rw [followAll, List.foldlM_cons]
    rcases saidBy_cases part with ⟨hsilent, hsaid⟩ | ⟨hspoken, ⟨-, hsaid⟩ | ⟨hentry, hsaid⟩⟩
    · rw [hsaid] at hdirectory ⊢
      have hlocation : tree.at? location = some .directory := by
        by_cases he : location = (saidBy parts).foldl enter location
        · rw [he]
          exact hdirectory
        · exact h.at?_of_suffix (by rw [List.foldl_nil] at hdirectory; rw [hdirectory]; rfl)
            (suffix_foldl_enter hup.2 location) he
      rw [follow_of_silent hlocation hsilent]
      exact ih hup.2 hdirectory
    · rw [hsaid] at hup
      exact absurd List.mem_cons_self hup.1
    · rw [hsaid] at hdirectory ⊢
      change tree.at? ((saidBy parts).foldl enter (String.ofList part :: location)) = _
        at hdirectory
      obtain ⟨hlocation, husable⟩ := h.of_suffix (by rw [hdirectory]; rfl)
        (suffix_foldl_enter hup.2 (String.ofList part :: location))
      rw [follow_of_entry hlocation hspoken hentry, if_pos husable.short]
      exact ih hup.2 hdirectory

/-- The same with parts that lead up in front. -/
theorem WellFormed.followAll_of_directory (h : tree.WellFormed) {parts : List (List Char)}
    (hleads : (saidBy parts).Pairwise Component.Leads)
    (hlocation : tree.at? location = some .directory)
    (hdirectory : tree.at? ((saidBy parts).foldl enter location) = some .directory) :
    tree.followAll location parts = .ok ((saidBy parts).foldl enter location) := by
  obtain ⟨front, back, rfl, hfront, hback, -⟩ := exists_split hleads
  rw [saidBy_append, List.foldl_append] at hdirectory ⊢
  rw [h.followAll_append hfront hlocation]
  exact h.followAll_of_names hback hdirectory

/-- **What can be followed in one tree can be in another** where the same
directories are on the way. -/
theorem followAll_of_followAll {other : FileTree} {last : Location} {parts : List (List Char)}
    (hup : .up ∉ saidBy parts) (hfollow : other.followAll location parts = .ok last)
    (hdirectories : ∀ place, place <:+ last → other.at? place = some .directory →
      tree.at? place = some .directory) : tree.followAll location parts = .ok last := by
  induction parts generalizing location with
  | nil => exact hfollow
  | cons part parts ih =>
    have hlast := eq_of_followAll hfollow
    obtain ⟨next, hnext, hthen⟩ := of_eq_ok hfollow
    have hlocation := hdirectories location (hlast ▸ suffix_foldl_enter hup location)
      (directory_of_follow hnext)
    rw [followAll, List.foldlM_cons, follow_of_follow hnext hlocation]
    rw [saidBy_cons, List.mem_append, not_or] at hup
    exact ih hup.2 hthen

theorem WellFormed.at?_start (h : tree.WellFormed) (path : Path) :
    tree.at? (path.start.foldl enter tree.workDir) = some .directory := by
  rw [foldl_enter_start]
  split
  · rfl
  · exact h.workDir

/-- **A straight path is followed from where its names begin.** -/
theorem WellFormed.followAll_split (h : tree.WellFormed) {front back : List (List Char)}
    (hparts : path.parts = front ++ back) (hfront : ∀ component ∈ saidBy front, component = .up)
    (hback : .up ∉ saidBy back) :
    tree.followAll (path.start.foldl enter tree.workDir) path.parts
      = tree.followAll (origin tree.workDir path) back := by
  rw [hparts, h.followAll_append hfront (h.at?_start path), origin,
    lead_of_split hparts hfront hback, List.foldl_append]

/-! ## Entries of open directories -/

section Join

variable {dir : Path} {name : String}

theorem saidBy_partsInFront (dir : Path) : saidBy (partsInFront dir) = saidBy dir.parts := by
  rw [partsInFront]
  split
  · next hempty =>
    obtain ⟨front, hparts⟩ := List.getLast?_eq_some_iff.mp hempty
    rw [hparts, List.dropLast_concat, saidBy_append]
    exact (List.append_nil _).symm
  · rfl

/-- What is in front of a name leads to the directory. -/
theorem foldl_enter_partsInFront (workDir : Location) (dir : Path) (hname : IsEntry name) :
    (saidBy (partsInFront dir)).foldl enter
        (if (joint dir).head? = some '/' then [] else workDir) = aim workDir dir := by
  have hstart : (if (joint dir).head? = some '/' then [] else workDir)
      = (dir.join ⟨name⟩).start.foldl enter workDir := by
    rw [foldl_enter_start, isAbsolute_join dir hname]
    simp only [decide_eq_true_eq]
  have hsaid : saidBy (dir.join ⟨name⟩).parts = saidBy (partsInFront dir) ++ [.entry name] := by
    rw [parts_join dir hname, saidBy_append, hname.saidBy_eq]
    rfl
  have hcomponents : (dir.join ⟨name⟩).components
      = (dir.join ⟨name⟩).start ++ saidBy (partsInFront dir) ++ [.entry name] := by
    rw [List.append_assoc, ← hsaid]
    rfl
  rw [components_join dir hname] at hcomponents
  rw [aim, List.append_cancel_right hcomponents, List.foldl_append, ← hstart]

/-- **A directory that is there is led to by no null character.** -/
theorem WellFormed.null_not_mem (h : tree.WellFormed) (hstraight : path.IsStraight)
    (hdirectory : tree.at? (aim tree.workDir path) = some .directory) :
    '\x00' ∉ path.text.toList := by
  intro hmem
  obtain ⟨part, hpart, hnull⟩ : ∃ part ∈ path.parts, '\x00' ∈ part :=
    Text.exists_mem_pieces rfl hmem
  have hspoken : isSilent part = false := by
    refine eq_false_of_ne_true fun hsilent => ?_
    rw [isSilent, Bool.or_eq_true, decide_eq_true_eq, decide_eq_true_eq] at hsilent
    rcases hsilent with rfl | rfl
    · cases hnull
    · exact absurd (List.mem_singleton.mp hnull) (by decide)
  have hup : componentOf part ≠ .up := by
    intro hup
    rw [componentOf] at hup
    split at hup
    · next he =>
      rw [he] at hnull
      exact absurd hnull (by decide)
    · cases hup
  -- so it says a name, and names that are there have no null character
  have hname : String.ofList part ∈ path.names := by
    rw [Path.names, components, List.filterMap_append]
    exact List.mem_append_right _ (ofList_mem_filterMap_name? hpart hspoken hup)
  rw [aim_of_isStraight _ hstraight] at hdirectory
  obtain ⟨inner, outer, hreverse⟩ := List.append_of_mem (List.mem_reverse.mpr hname)
  rw [hreverse, List.append_assoc, List.cons_append] at hdirectory
  have husable := (h.of_suffix (by rw [hdirectory]; rfl) (List.suffix_append inner _)).2
  rw [← String.toList_ofList (l := part)] at hnull
  exact husable.null hnull

/-- Where an entry of an open directory is, if it can have its name. -/
def seat (workDir : Location) (dir : Path) (name : String) : Except DiskError Location :=
  if '\x00' ∉ name.toList ∧ isName name = true then .ok (name :: aim workDir dir)
  else .error .badName

/-- **A path to an entry of an open directory can be followed** unless the
entry cannot have its name. -/
theorem WellFormed.locate_join_of_open (h : tree.WellFormed) (hdir : dir.IsStraight)
    (hopen : tree.at? (aim tree.workDir dir) = some .directory) (hname : IsEntry name) :
    tree.locate (dir.join ⟨name⟩) = seat tree.workDir dir name := by
  have hfront := foldl_enter_partsInFront tree.workDir dir hname
  have hleads : (saidBy (partsInFront dir)).Pairwise Component.Leads := by
    rw [saidBy_partsInFront]
    exact pairwise_saidBy hdir
  have hstart : tree.at? (if (joint dir).head? = some '/' then [] else tree.workDir)
      = some .directory := by
    split
    · rfl
    · exact h.workDir
  have hfollow := h.followAll_of_directory hleads hstart (hfront ▸ hopen)
  rw [hfront] at hfollow
  have hjoint : '\x00' ∉ joint dir := fun hm =>
    (mem_joint hm).elim (h.null_not_mem hdir hopen) (by decide)
  rw [locate_join dir hname, hfollow, seat]
  by_cases hnull : '\x00' ∈ name.toList
  · rw [if_pos (List.mem_append_right _ hnull), if_neg fun hboth => hboth.1 hnull]
  · rw [if_neg fun hm => (List.mem_append.mp hm).elim hjoint hnull]
    refine (follow_of_isEntry hopen hname).trans (ite_congr ?_ ?_ ?_)
    · exact propext (and_iff_right hnull).symm
    · exact fun _ => rfl
    · exact fun _ => rfl

/-- **What is found by a joined path is what is there.** -/
theorem WellFormed.find?_join (h : tree.WellFormed) (hdir : dir.IsStraight)
    (hname : IsEntry name) :
    tree.find? (dir.join ⟨name⟩) = tree.at? (name :: aim tree.workDir dir) := by
  cases hthere : tree.at? (name :: aim tree.workDir dir) with
  | none =>
    rw [find?]
    split
    · next place hlocate =>
      rw [eq_aim_of_locate hlocate, aim_join dir _ hname, hthere]
    · rfl
  | some node =>
    have hsome : (tree.at? (name :: aim tree.workDir dir)).isSome := by
      rw [hthere]
      rfl
    have husable := h.names _ _ hsome
    rw [find?, h.locate_join_of_open hdir (h.parents _ _ hsome) hname, seat,
      if_pos ⟨husable.null, husable.short⟩]
    exact hthere

end Join

/-- **A file is found in one tree as in another** where it is the same, by a
path that never leads up. -/
theorem WellFormed.find?_of_find? (h : tree.WellFormed) {other : FileTree}
    (hform : other.WellFormed) (hdir : tree.workDir = other.workDir)
    (hstraight : path.IsStraight) {bytes : ByteArray}
    (hfile : tree.at? (aim other.workDir path) = some (.file bytes))
    (hfind : other.find? path = some (.file bytes)) : tree.find? path = some (.file bytes) := by
  obtain ⟨place, hlocate⟩ := exists_locate_of_find? (by rw [hfind]; rfl)
  rw [find?_of_locate hlocate] at hfind
  obtain rfl := eq_aim_of_locate hlocate
  have hsame : tree.locate path = .ok (aim other.workDir path) := by
    obtain ⟨hnull, hempty, hfollow⟩ := locate_eq_ok_iff.mp hlocate
    obtain ⟨front, back, hparts, hfront, hback, -⟩ := exists_split (pairwise_saidBy hstraight)
    rw [hform.followAll_split hparts hfront hback] at hfollow
    refine locate_eq_ok_iff.mpr ⟨hnull, hempty, ?_⟩
    rw [h.followAll_split hparts hfront hback, hdir]
    refine followAll_of_followAll hback hfollow fun above hsuffix hdirectory => ?_
    refine h.at?_of_suffix (by rw [hfile]; rfl) hsuffix ?_
    rintro rfl
    rw [hfind] at hdirectory
    cases hdirectory
  rw [find?, hsame]
  exact hfile

/-! ## Walking -/

/-- One name further. -/
def enterName (tree : FileTree) (location : Location) (name : String) :
    Except DiskError Location := do
  tree.checkDirectory location
  if isName name then return name :: location else .error .badName

/-- **Walks from name to name.** -/
def walk (tree : FileTree) (location : Location) (names : List String) :
    Except DiskError Location :=
  names.foldlM tree.enterName location

theorem enterName_of_directory (h : tree.at? location = some .directory) (name : String) :
    tree.enterName location name
      = if isName name then .ok (name :: location) else .error .badName := by
  rw [enterName, checkDirectory_eq_ok_iff.mpr h]
  rfl

/-- A name on the way asks for a directory, and so it does not matter whether
that was asked for before. -/
theorem checkDirectory_walk (location : Location) {names : List String} (h : names ≠ []) :
    (do tree.checkDirectory location; tree.walk location names) = tree.walk location names := by
  cases names with
  | nil => exact absurd rfl h
  | cons name names =>
    rw [walk, List.foldlM_cons, enterName]
    cases tree.checkDirectory location <;> rfl

/-- **Parts that end in a name walk from name to name**: the silent ones
between make no difference. -/
theorem followAll_eq_walk {parts : List (List Char)} (hup : .up ∉ saidBy parts)
    (hlast : ∀ last, parts.getLast? = some last → isSilent last = false) (location : Location) :
    tree.followAll location parts
      = tree.walk location ((saidBy parts).filterMap Component.name?) := by
  induction parts generalizing location with
  | nil => rfl
  | cons part parts ih =>
    have hrestLast : ∀ last, parts.getLast? = some last → isSilent last = false := by
      intro last h
      refine hlast last ?_
      rw [List.getLast?_cons, h]
      rfl
    rw [saidBy_cons, List.mem_append, not_or] at hup
    rw [saidBy_cons, List.filterMap_append, followAll, List.foldlM_cons]
    rcases saidBy_cases part with ⟨hsilent, hsaid⟩ | ⟨hspoken, ⟨-, hsaid⟩ | ⟨hentry, hsaid⟩⟩
    · have hne : (saidBy parts).filterMap Component.name? ≠ [] := by
        rcases List.eq_nil_or_concat' parts with rfl | ⟨front, last, rfl⟩
        · rw [hlast part rfl] at hsilent
          cases hsilent
        have hspoken := hrestLast last List.getLast?_concat
        have hm : last ∈ front ++ [last] := List.mem_concat_self
        exact List.ne_nil_of_mem (ofList_mem_filterMap_name? hm hspoken
          fun he => hup.2 (he ▸ componentOf_mem_saidBy hm hspoken))
      rw [hsaid, List.filterMap_nil, List.nil_append, ← checkDirectory_walk location hne,
        ← ih hup.2 hrestLast location, follow]
      cases tree.checkDirectory location with
      | error error => rfl
      | ok _ =>
        show (if isSilent part then _ else _) >>= _ = _
        rw [if_pos hsilent]
        rfl
    · rw [hsaid] at hup
      exact absurd List.mem_cons_self hup.1
    · have hfollow : tree.follow location part = tree.enterName location (String.ofList part) := by
        rw [follow, enterName, hentry, hspoken]
        rfl
      rw [hsaid, hfollow]
      show _ = List.foldlM tree.enterName location (String.ofList part :: _)
      rw [List.foldlM_cons]
      exact bind_congr fun next => ih hup.2 hrestLast next

/-- **A walkable path walks from name to name.** -/
theorem WellFormed.locate_of_isWalkable (h : tree.WellFormed) (hpath : path.IsWalkable)
    (hne : path.text ≠ "") :
    tree.locate path = tree.walk (origin tree.workDir path) path.names := by
  obtain ⟨front, back, hparts, hfront, hback, hhead⟩ :=
    exists_split (pairwise_saidBy hpath.straight)
  have hnull : ¬ path.text.toList.contains '\x00' = true := by
    rw [List.contains_iff_mem]
    exact hpath.null_not_mem
  rw [locate, if_neg hnull, if_neg hne, ← foldl_enter_start,
    h.followAll_split hparts hfront hback, names_of_split hparts hfront]
  refine followAll_eq_walk hback (fun last hlast => ?_) _
  obtain ⟨init, rfl⟩ := List.getLast?_eq_some_iff.mp hlast
  cases init with
  | nil => exact hhead last rfl
  | cons first init => exact hpath.tidy.isSilent_eq_false hparts (hhead first rfl)

theorem WellFormed.walk_of_directory (h : tree.WellFormed) {names : List String}
    (hdirectory : tree.at? (names.reverse ++ location) = some .directory) :
    tree.walk location names = .ok (names.reverse ++ location) := by
  induction names generalizing location with
  | nil => rfl
  | cons name names ih =>
    rw [List.reverse_cons, List.append_assoc] at hdirectory ⊢
    have hsuffix : name :: location <:+ names.reverse ++ ([name] ++ location) :=
      List.suffix_append _ _
    obtain ⟨hlocation, husable⟩ := h.of_suffix (by rw [hdirectory]; rfl) hsuffix
    rw [walk, List.foldlM_cons, enterName_of_directory hlocation, if_pos husable.short]
    exact ih hdirectory

section Names

variable {front : List String} {name : String}

/-- A walkable path leads to an entry of what its names but the last lead to. -/
theorem WellFormed.locate_eq_enterName (h : tree.WellFormed) (hpath : path.IsWalkable)
    (hnames : path.names = front ++ [name]) :
    tree.locate path
      = tree.walk (origin tree.workDir path) front >>= (tree.enterName · name) := by
  rw [h.locate_of_isWalkable hpath (text_ne_empty (components_ne_nil_of_names hnames)), hnames,
    walk, List.foldlM_append]
  simp only [List.foldlM_cons, List.foldlM_nil, bind_pure]
  rfl

/-- **A walkable path to an entry of an open directory** can be followed unless
the name is too long. -/
theorem WellFormed.locate_of_open (h : tree.WellFormed) (hpath : path.IsWalkable)
    (hnames : path.names = front ++ [name])
    (hopen : tree.at? (front.reverse ++ origin tree.workDir path) = some .directory) :
    tree.locate path
      = if isName name then .ok (aim tree.workDir path) else .error .badName := by
  rw [h.locate_eq_enterName hpath hnames, h.walk_of_directory hopen,
    aim_of_isStraight _ hpath.straight, hnames, List.reverse_append]
  exact enterName_of_directory hopen name

variable {parent : Path}

/-- The path above leads to the directory of the entry. -/
theorem aim_parent (hpath : path.IsWalkable) (hnames : path.names = front ++ [name])
    (hparent : path.parent? = some parent) (workDir : Location) :
    aim workDir parent = front.reverse ++ origin workDir path := by
  obtain ⟨hwalkable, hfront, hlead⟩ := hpath.parent hnames hparent
  rw [aim_of_isStraight _ hwalkable.straight, hfront, origin, origin, hlead]

/-- The path above is walked along the same names. -/
theorem WellFormed.locate_parent (h : tree.WellFormed) (hpath : path.IsWalkable)
    (hnames : path.names = front ++ [name]) (hparent : path.parent? = some parent)
    (hne : front ≠ []) :
    tree.locate parent = tree.walk (origin tree.workDir path) front := by
  obtain ⟨hwalkable, hfront, hlead⟩ := hpath.parent hnames hparent
  rw [h.locate_of_isWalkable hwalkable (text_ne_empty (components_ne_nil (hfront ▸ hne))), hfront,
    origin, origin, hlead]

end Names

theorem eq_of_walk {names : List String} {last : Location}
    (h : tree.walk location names = .ok last) : last = names.reverse ++ location := by
  induction names generalizing location with
  | nil => exact (Except.ok.inj h).symm
  | cons name names ih =>
    rw [walk, List.foldlM_cons] at h
    obtain ⟨next, hnext, hthen⟩ := of_eq_ok h
    obtain ⟨_, -, hname⟩ := of_eq_ok hnext
    split at hname
    · obtain rfl := Except.ok.inj hname
      rw [ih hthen, List.reverse_cons, List.append_assoc]
      rfl
    · cases hname

end FileTree

end Playscript
