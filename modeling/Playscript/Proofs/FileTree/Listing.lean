import Playscript.Proofs.FileTree.Places

/-!
# What a directory lists

The names of a directory are read off the entries of the tree one by one. So
they are the names of what is there, and each of them comes once if the tree
has one entry for a place (`FileTree.ListsOnce`). A tree with two entries for
a place would be no other tree for any path that is followed, since the first
entry hides the second; it would only be listed differently. No operation of
a disk makes such a tree: what is put somewhere takes the place of what was
there.
-/

namespace Playscript

namespace FileTree

variable {tree : FileTree} {location : Location} {name : String}

/-! ## The names of a directory -/

/-- The name of a place in a directory. -/
def nameWithin? (location : Location) : Location → Option String
  | name :: dir => if dir = location then some name else none
  | [] => none

theorem nameWithin?_eq_some_iff {place : Location} :
    nameWithin? location place = some name ↔ place = name :: location := by
  cases place with
  | nil => exact ⟨nofun, nofun⟩
  | cons last dir =>
    rw [nameWithin?]
    split
    · next hdir => rw [hdir, Option.some.injEq, List.cons.injEq, and_iff_left rfl]
    · next hdir => exact ⟨nofun, fun he => absurd (List.cons.inj he).2 hdir⟩

theorem namesWithin_eq (tree : FileTree) (location : Location) :
    tree.namesWithin location = (tree.entries.map (·.1)).filterMap (nameWithin? location) := by
  rw [List.filterMap_map]
  refine List.filterMap_congr fun entry _ => ?_
  rw [Function.comp_apply]
  cases entry.1 <;> rfl

/-- **The names of a directory** are those of what is in it. -/
theorem mem_namesWithin_iff :
    name ∈ tree.namesWithin location ↔ (tree.at? (name :: location)).isSome := by
  rw [at?_of_ne_nil _ (List.cons_ne_nil _ _), List.lookup_isSome_iff, namesWithin_eq,
    List.mem_filterMap]
  constructor
  · rintro ⟨place, hplace, hname⟩
    obtain ⟨entry, hentry, rfl⟩ := List.mem_map.mp hplace
    exact ⟨entry, hentry, beq_iff_eq.mpr (nameWithin?_eq_some_iff.mp hname).symm⟩
  · rintro ⟨entry, hentry, hplace⟩
    exact ⟨entry.1, List.mem_map_of_mem hentry,
      nameWithin?_eq_some_iff.mpr (eq_of_beq hplace).symm⟩

/-! ## Each place once -/

theorem length_le_of_mem_wayTo {place : Location} (h : place ∈ wayTo location) :
    place.length ≤ location.length := by
  induction location with
  | nil => cases h
  | cons name dir ih =>
    rcases List.mem_cons.mp h with rfl | h
    · exact Nat.le_refl _
    · exact (ih h).trans (Nat.le_succ _)

/-- The places on a way are different: each is longer than those behind it. -/
theorem nodup_wayTo (location : Location) : (wayTo location).Nodup := by
  induction location with
  | nil => exact .nil
  | cons name dir ih =>
    refine List.nodup_cons.mpr ⟨fun hm => ?_, ih⟩
    exact Nat.not_succ_le_self _ (length_le_of_mem_wayTo hm)

/-- **A tree lists each place once.** -/
def ListsOnce (tree : FileTree) : Prop := (tree.entries.map (·.1)).Nodup

namespace ListsOnce

theorem bare (workDir : Location) : (FileTree.bare workDir).ListsOnce := by
  have hplaces : (FileTree.bare workDir).entries.map (·.1) = wayTo workDir := by
    rw [FileTree.bare, List.map_map]
    exact List.map_id _
  rw [ListsOnce, hplaces]
  exact nodup_wayTo workDir

theorem erase (h : tree.ListsOnce) (location : Location) : (tree.erase location).ListsOnce :=
  h.sublist (List.Sublist.map _ List.filter_sublist)

theorem put (h : tree.ListsOnce) (location : Location) (node : Node) :
    (tree.put location node).ListsOnce := by
  refine List.nodup_cons.mpr ⟨fun hm => ?_, h.erase location⟩
  obtain ⟨entry, hentry, hplace⟩ := List.mem_map.mp hm
  exact of_decide_eq_true (List.mem_filter.mp hentry).2 hplace

/-- **The entries of a directory have different names.** -/
theorem nodup_namesWithin (h : tree.ListsOnce) (location : Location) :
    (tree.namesWithin location).Nodup := by
  rw [namesWithin_eq]
  refine List.Pairwise.filterMap (nameWithin? location) ?_ h
  rintro place other hne name hname last hlast rfl
  rw [nameWithin?_eq_some_iff] at hname hlast
  exact hne (hname.trans hlast.symm)

/-! ### What operations leave -/

variable {after : FileTree}

theorem of_writeBytes (h : tree.ListsOnce) {path : Path} {bytes : ByteArray}
    (hwrite : tree.writeBytes path bytes = .ok after) : after.ListsOnce := by
  obtain ⟨-, rfl⟩ := FileTree.of_writeBytes hwrite
  exact h.put _ _

theorem of_makeDirectory (h : tree.ListsOnce) {path : Path}
    (hmake : tree.makeDirectory path = .ok after) : after.ListsOnce := by
  obtain ⟨-, rfl⟩ := FileTree.of_makeDirectory hmake
  exact h.put _ _

theorem of_removeFile (h : tree.ListsOnce) {path : Path}
    (hremove : tree.removeFile path = .ok after) : after.ListsOnce := by
  obtain ⟨-, rfl⟩ := FileTree.of_removeFile hremove
  exact h.erase _

theorem of_moveFile (h : tree.ListsOnce) {source target : Path}
    (hmove : tree.moveFile source target = .ok after) : after.ListsOnce := by
  obtain ⟨_, -, -, rfl⟩ := FileTree.of_moveFile hmove
  exact (h.erase _).put _ _

end ListsOnce

end FileTree

end Playscript
