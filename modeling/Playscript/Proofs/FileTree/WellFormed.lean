import Playscript.Proofs.FileTree.Places

/-!
# Trees that can be on a disk

A list of entries can say things that no disk says: that a file is within a
file, or that an entry has a slash in its name. The operations of a disk do
not lead from trees that can be on one (`FileTree.WellFormed`) to others. They
follow paths, and a path is followed from directory to directory; so where it
leads there is a directory, or there is room for an entry
(`FileTree.WellFormed.of_locate`).
-/

namespace Playscript

namespace FileTree

/-- **A name that an entry can have.** -/
structure IsUsable (name : String) : Prop where
  /-- It is one entry of a path. -/
  entry : Path.IsEntry name
  /-- It is not too long. -/
  short : isName name = true
  /-- It holds no null character. -/
  null : '\x00' ∉ name.toList

/-- **A tree that can be on a disk.** -/
structure WellFormed (tree : FileTree) : Prop where
  /-- What is there is in a directory. -/
  parents : ∀ name dir, (tree.at? (name :: dir)).isSome → tree.at? dir = some .directory
  /-- What is there has a name. -/
  names : ∀ name dir, (tree.at? (name :: dir)).isSome → IsUsable name
  /-- Paths lead from a directory. -/
  workDir : tree.at? tree.workDir = some .directory

/-- **An entry can be put at a location**: in a directory, under a name. -/
def HasRoom (tree : FileTree) : Location → Prop
  | [] => False
  | name :: dir => tree.at? dir = some .directory ∧ IsUsable name

variable {tree after : FileTree} {location : Location}

/-- A part that says something and does not lead up is an entry. -/
theorem isEntry_of_part {part : List Char} (hslash : ∀ c ∈ part, decide (c = '/') = false)
    (hspoken : Path.isSilent part = false) {name : String}
    (h : Path.componentOf part = .entry name) : Path.IsEntry name ∧ name.toList = part := by
  rw [Path.componentOf] at h
  split at h
  · cases h
  · next hup =>
    obtain rfl := Path.Component.entry.inj h
    have htext : (String.ofList part).toList = part := String.toList_ofList
    refine ⟨⟨fun c hc => ?_, ?_, ?_⟩, htext⟩
    · rw [htext] at hc
      exact of_decide_eq_false (hslash c hc)
    · rwa [htext]
    · rwa [htext]

/-- Taking something away makes no directory. -/
theorem at?_erase_ne_directory {other : Location} (h : tree.at? other ≠ some .directory) :
    (tree.erase location).at? other ≠ some .directory := by
  by_cases he : other = location
  · rw [← he, tree.at?_erase_self (ne_nil_of_at? h)]
    exact nofun
  · rwa [tree.at?_erase_of_ne he]

/-- There is still room when something that is no directory is taken away. -/
theorem HasRoom.erase {other : Location} (h : tree.HasRoom other)
    (hkind : tree.at? location ≠ some .directory) : (tree.erase location).HasRoom other := by
  cases other with
  | nil => exact h
  | cons name dir =>
    refine ⟨?_, h.2⟩
    rw [tree.at?_erase_of_ne (fun he => hkind (by rw [← he]; exact h.1)), h.1]

namespace WellFormed

/-- It is enough to look at the entries. -/
theorem of_entries (h : ∀ entry ∈ tree.entries, tree.HasRoom entry.1)
    (hdir : tree.at? tree.workDir = some .directory) : tree.WellFormed := by
  have hroom (name : String) (dir : Location) (hsome : (tree.at? (name :: dir)).isSome) :
      tree.HasRoom (name :: dir) := by
    obtain ⟨node, hnode⟩ := Option.isSome_iff_exists.mp hsome
    rw [at?_of_ne_nil _ (List.cons_ne_nil _ _)] at hnode
    obtain ⟨front, back, hentries, -⟩ := List.lookup_eq_some_iff.mp hnode
    refine h (name :: dir, node) ?_
    rw [hentries]
    exact List.mem_append_right _ List.mem_cons_self
  exact ⟨fun name dir hsome => (hroom name dir hsome).1,
    fun name dir hsome => (hroom name dir hsome).2, hdir⟩

/-- What is around a directory is one. -/
theorem at?_tail (h : tree.WellFormed) (hdirectory : tree.at? location = some .directory) :
    tree.at? location.tail = some .directory := by
  cases location with
  | nil => rfl
  | cons name dir => exact h.parents name dir (by rw [hdirectory]; rfl)

/-- All that leads to something is a directory. -/
theorem at?_of_suffix (h : tree.WellFormed) {above : Location} (hsome : (tree.at? location).isSome)
    (hsuffix : above <:+ location) (hne : above ≠ location) :
    tree.at? above = some .directory := by
  induction location with
  | nil => exact absurd (List.suffix_nil.mp hsuffix) hne
  | cons name dir ih =>
    rcases List.suffix_cons_iff.mp hsuffix with rfl | hsuffix
    · exact absurd rfl hne
    · have hdir := h.parents name dir hsome
      by_cases he : above = dir
      · rwa [he]
      · exact ih (by rw [hdir]; rfl) hsuffix he

/-! ## Where paths lead -/

/-- One part further there is a directory, or there is room. -/
theorem of_follow (h : tree.WellFormed) {next : Location} {part : List Char}
    (hslash : ∀ c ∈ part, decide (c = '/') = false) (hnull : '\x00' ∉ part)
    (hfollow : tree.follow location part = .ok next) :
    tree.at? next = some .directory ∨ tree.HasRoom next := by
  have hdirectory := directory_of_follow hfollow
  rcases Path.saidBy_cases part with ⟨hsilent, -⟩ | ⟨hspoken, ⟨hup, -⟩ | ⟨hname, -⟩⟩
  · rw [follow_of_silent hdirectory hsilent] at hfollow
    obtain rfl := Except.ok.inj hfollow
    exact .inl hdirectory
  · rw [follow_of_up hdirectory hspoken hup] at hfollow
    obtain rfl := Except.ok.inj hfollow
    exact .inl (h.at?_tail hdirectory)
  · rw [follow_of_entry hdirectory hspoken hname] at hfollow
    obtain ⟨hentry, htext⟩ := isEntry_of_part hslash hspoken hname
    split at hfollow
    · next hshort =>
      obtain rfl := Except.ok.inj hfollow
      exact .inr ⟨hdirectory, hentry, hshort, htext.symm ▸ hnull⟩
    · cases hfollow

theorem of_followAll (h : tree.WellFormed) {next : Location} {parts : List (List Char)}
    (hparts : ∀ part ∈ parts, (∀ c ∈ part, decide (c = '/') = false) ∧ '\x00' ∉ part)
    (hstart : tree.at? location = some .directory)
    (hfollow : tree.followAll location parts = .ok next) :
    tree.at? next = some .directory ∨ tree.HasRoom next := by
  rcases List.eq_nil_or_concat' parts with rfl | ⟨front, last, rfl⟩
  · obtain rfl := Except.ok.inj hfollow
    exact .inl hstart
  · rw [followAll, List.foldlM_append] at hfollow
    obtain ⟨middle, -, hthen⟩ := of_eq_ok hfollow
    simp only [List.foldlM_cons, List.foldlM_nil, bind_pure] at hthen
    obtain ⟨hslash, hnull⟩ := hparts last (List.mem_append_right _ (List.mem_singleton_self _))
    exact h.of_follow hslash hnull hthen

/-- **Where a path leads, there is a directory or there is room.** -/
theorem of_locate (h : tree.WellFormed) {path : Path} (hlocate : tree.locate path = .ok location) :
    tree.at? location = some .directory ∨ tree.HasRoom location := by
  obtain ⟨hnull, -, hfollow⟩ := locate_eq_ok_iff.mp hlocate
  rw [foldl_enter_start] at hfollow
  refine h.of_followAll (fun part hm => ⟨Path.cut_of_mem_parts hm, fun hmem => hnull ?_⟩) ?_
    hfollow
  · exact Text.mem_of_mem_pieces hm hmem
  · split
    · rfl
    · exact h.workDir

theorem hasRoom_of_locate (h : tree.WellFormed) {path : Path}
    (hlocate : tree.locate path = .ok location) (hkind : tree.at? location ≠ some .directory) :
    tree.HasRoom location :=
  (h.of_locate hlocate).resolve_left hkind

/-! ## What operations leave -/

/-- Something put where there is room, and no directory. -/
theorem put (h : tree.WellFormed) (hroom : tree.HasRoom location)
    (hkind : tree.at? location ≠ some .directory) (node : Node) :
    (tree.put location node).WellFormed := by
  cases location with
  | nil => exact hroom.elim
  | cons last above =>
    obtain ⟨habove, husable⟩ := hroom
    have hdirectory {dir : Location} (hdir : tree.at? dir = some .directory) :
        (tree.put (last :: above) node).at? dir = some .directory := by
      rw [tree.at?_put_of_ne (fun he => hkind (by rwa [← he])), hdir]
    refine ⟨fun name dir hsome => hdirectory ?_, fun name dir hsome => ?_, hdirectory h.workDir⟩
    · by_cases he : name :: dir = last :: above
      · rwa [(List.cons.inj he).2]
      · rw [tree.at?_put_of_ne he] at hsome
        exact h.parents name dir hsome
    · by_cases he : name :: dir = last :: above
      · rwa [(List.cons.inj he).1]
      · rw [tree.at?_put_of_ne he] at hsome
        exact h.names name dir hsome

/-- Something that is no directory taken away. -/
theorem erase (h : tree.WellFormed) (hkind : tree.at? location ≠ some .directory) :
    (tree.erase location).WellFormed := by
  have hne : location ≠ [] := fun he => hkind (by rw [he]; rfl)
  have hdirectory {dir : Location} (hdir : tree.at? dir = some .directory) :
      (tree.erase location).at? dir = some .directory := by
    rw [tree.at?_erase_of_ne (fun he => hkind (by rwa [← he])), hdir]
  have hthere {other : Location} (hsome : ((tree.erase location).at? other).isSome) :
      (tree.at? other).isSome := by
    by_cases he : other = location
    · rw [he, tree.at?_erase_self hne] at hsome
      cases hsome
    · rwa [tree.at?_erase_of_ne he] at hsome
  exact ⟨fun name dir hsome => hdirectory (h.parents name dir (hthere hsome)),
    fun name dir hsome => h.names name dir (hthere hsome), hdirectory h.workDir⟩

theorem of_writeBytes (h : tree.WellFormed) {path : Path} {bytes : ByteArray}
    (hwrite : tree.writeBytes path bytes = .ok after) : after.WellFormed := by
  obtain ⟨location, hlocate, -⟩ := of_eq_ok hwrite
  obtain ⟨hkind, rfl⟩ := FileTree.of_writeBytes hwrite
  obtain rfl := eq_aim_of_locate hlocate
  exact h.put (h.hasRoom_of_locate hlocate hkind) hkind _

theorem of_makeDirectory (h : tree.WellFormed) {path : Path}
    (hmake : tree.makeDirectory path = .ok after) : after.WellFormed := by
  obtain ⟨location, hlocate, hthen⟩ := of_eq_ok hmake
  split at hthen
  · cases hthen
  · next hnone =>
    obtain rfl := Except.ok.inj hthen
    have hkind := ne_directory_of_none hnone
    exact h.put (h.hasRoom_of_locate hlocate hkind) hkind _

theorem of_removeFile (h : tree.WellFormed) {path : Path}
    (hremove : tree.removeFile path = .ok after) : after.WellFormed := by
  obtain ⟨hkind, rfl⟩ := FileTree.of_removeFile hremove
  exact h.erase hkind

theorem of_moveFile (h : tree.WellFormed) {source target : Path}
    (hmove : tree.moveFile source target = .ok after) : after.WellFormed := by
  obtain ⟨_, -, hthen⟩ := of_eq_ok hmove
  obtain ⟨destination, htarget, -⟩ := of_eq_ok hthen
  obtain ⟨bytes, hfile, hkind, rfl⟩ := FileTree.of_moveFile hmove
  obtain rfl := eq_aim_of_locate htarget
  have hsource := ne_directory_of_file hfile
  exact (h.erase hsource).put ((h.hasRoom_of_locate htarget hkind).erase hsource)
    (at?_erase_ne_directory hkind) _

end WellFormed

end FileTree

end Playscript
