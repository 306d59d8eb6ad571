import Playscript.Proofs.FileTree.Places

/-!
# What can be found

A path that cannot be followed finds nothing, whatever is at the place it
leads to. So finding nothing at a path does not mean that the place is free:
of `gone/../here` nothing is found while `gone` is missing, and once it is
made, what was at `here` all along comes to light. Only of a path that can
be followed does finding nothing mean that nothing is there
(`FileTree.find?_of_locate`).

Since no directory is ever taken away, a path that can be followed once can
be followed from then on (`FileTree.locate_of_spares`). And whether the last
name of a path is an entry does not matter to the way there, so with one path
all paths to its neighbours can be followed (`FileTree.exists_locate_join`).
-/

namespace Playscript

/-- The bytes of a file. -/
def Node.bytes? : Node → Option ByteArray
  | .directory => none
  | .file bytes => some bytes

namespace FileTree

/-! ## Paths that can be followed -/

variable {tree : FileTree} {path : Path} {location : Location}

/-- What is found at a path that can be followed is what is there. -/
theorem find?_of_locate (h : tree.locate path = .ok location) :
    tree.find? path = tree.at? (aim tree.workDir path) := by
  rw [find?, h, eq_aim_of_locate h]

/-- Where something is found, the path can be followed. -/
theorem exists_locate_of_find? (h : (tree.find? path).isSome) :
    ∃ location, tree.locate path = .ok location := by
  rw [find?] at h
  cases hlocate : tree.locate path with
  | ok location => exact ⟨location, rfl⟩
  | error error =>
    rw [hlocate] at h
    cases h

/-! ## What is found stays found -/

section Spares

variable {places : Location → Prop} {before after : FileTree}

theorem follow_of_spares (h : Spares places before after) {next : Location} {part : List Char}
    (hfollow : before.follow location part = .ok next) : after.follow location part = .ok next :=
  follow_of_follow hfollow (h.directories location (directory_of_follow hfollow))

theorem followAll_of_spares (h : Spares places before after) {last : Location}
    {parts : List (List Char)} (hfollow : before.followAll location parts = .ok last) :
    after.followAll location parts = .ok last := by
  induction parts generalizing location with
  | nil => exact hfollow
  | cons part parts ih =>
    obtain ⟨next, hnext, hthen⟩ := of_eq_ok hfollow
    rw [followAll, List.foldlM_cons, follow_of_spares h hnext]
    exact ih hthen

/-- **A path that can be followed can be followed from then on.** -/
theorem locate_of_spares (h : Spares places before after)
    (hlocate : before.locate path = .ok location) : after.locate path = .ok location := by
  obtain ⟨hnull, hempty, hfollow⟩ := locate_eq_ok_iff.mp hlocate
  rw [locate_eq_ok_iff, h.workDir]
  exact ⟨hnull, hempty, followAll_of_spares h hfollow⟩

/-- **A file that is found and spared is found from then on.** -/
theorem find?_of_spares (h : Spares places before after) {bytes : ByteArray}
    (hfind : before.find? path = some (.file bytes))
    (hout : ¬ places (aim before.workDir path)) : after.find? path = some (.file bytes) := by
  obtain ⟨location, hlocate⟩ := exists_locate_of_find? (by rw [hfind]; rfl)
  rw [find?_of_locate hlocate] at hfind
  rw [find?_of_locate (locate_of_spares h hlocate), h.workDir]
  exact h.at?_eq_file hout hfind

end Spares

/-! ## Neighbours -/

section Neighbours

variable (dir : Path) {name : String}

/-- A joined name leads one entry further. -/
theorem aim_join (workDir : Location) (h : Path.IsEntry name) :
    aim workDir (dir.join ⟨name⟩) = name :: aim workDir dir := by
  rw [aim, Path.components_join dir h, List.foldl_append]
  rfl

/-- What stands in front of a name that is joined to a path. -/
def joint : List Char :=
  if dir.text.toList.getLast?.all (· = '/') then dir.text.toList else dir.text.toList ++ ['/']

/-- The parts in front of a name that is joined to a path. -/
def partsInFront : List (List Char) :=
  if dir.parts.getLast? = some [] then dir.parts.dropLast else dir.parts

theorem toList_join (h : Path.IsEntry name) :
    (dir.join ⟨name⟩).text.toList = joint dir ++ name.toList := by
  rw [Path.join, h.isAbsolute_eq, if_neg Bool.false_ne_true, joint]
  split
  · exact String.toList_append
  · rw [String.toList_append, String.toList_append]
    rfl

theorem mem_joint {dir : Path} {c : Char} (h : c ∈ joint dir) : c ∈ dir.text.toList ∨ c = '/' := by
  rw [joint] at h
  split at h
  · exact .inl h
  · exact (List.mem_append.mp h).imp_right List.mem_singleton.mp

/-- Whether a joined path leads from the top is decided in front of the
name. -/
theorem isAbsolute_join (h : Path.IsEntry name) :
    (dir.join ⟨name⟩).isAbsolute = decide ((joint dir).head? = some '/') := by
  have hname := h.isAbsolute_eq
  rw [Path.isAbsolute] at hname
  rw [Path.isAbsolute, toList_join dir h]
  cases hjoint : joint dir with
  | nil =>
    rw [List.nil_append]
    exact hname
  | cons c rest => rfl

/-- What stands in front of the name is followed to where the path is. -/
theorem followAll_partsInFront {dir : Path} {last : Location}
    (h : tree.followAll location dir.parts = .ok last) :
    tree.followAll location (partsInFront dir) = .ok last := by
  rw [partsInFront]
  split
  · next hempty =>
    -- the empty part at the end has been followed to where it began
    obtain ⟨front, hparts⟩ := List.getLast?_eq_some_iff.mp hempty
    rw [hparts, followAll, List.foldlM_append] at h
    obtain ⟨middle, hmiddle, hthen⟩ := of_eq_ok h
    simp only [List.foldlM_cons, List.foldlM_nil, bind_pure] at hthen
    rw [follow_of_silent (directory_of_follow hthen) rfl] at hthen
    rw [hparts, List.dropLast_concat, ← Except.ok.inj hthen]
    exact hmiddle
  · exact h

/-- **A joined path is followed to its last name**, and the way there does
not depend on that name. -/
theorem locate_join (h : Path.IsEntry name) :
    tree.locate (dir.join ⟨name⟩)
      = if '\x00' ∈ joint dir ++ name.toList then .error .badName
        else tree.followAll (if (joint dir).head? = some '/' then [] else tree.workDir)
          (partsInFront dir) >>= (tree.follow · name.toList) := by
  have hne : (dir.join ⟨name⟩).text ≠ "" := by
    intro hempty
    have hnil := congrArg String.toList hempty
    rw [toList_join dir h] at hnil
    exact h.toList_ne_nil (List.append_eq_nil_iff.mp hnil).2
  rw [locate, if_neg hne, isAbsolute_join dir h, Path.parts_join dir h, toList_join dir h]
  simp only [List.contains_iff_mem, decide_eq_true_eq]
  rw [followAll, List.foldlM_append]
  simp only [List.foldlM_cons, List.foldlM_nil, bind_pure]
  rfl

/-- **With a path, all paths to its neighbours can be followed.** -/
theorem exists_locate_join {other : String} (h : Path.IsEntry name) (ho : Path.IsEntry other)
    (hname : isName other = true) (hnull : '\x00' ∉ other.toList)
    (hlocate : tree.locate (dir.join ⟨name⟩) = .ok location) :
    ∃ location, tree.locate (dir.join ⟨other⟩) = .ok location := by
  rw [locate_join dir h] at hlocate
  split at hlocate
  · cases hlocate
  next hjoint =>
  obtain ⟨last, hlast, hthen⟩ := of_eq_ok hlocate
  refine ⟨other :: last, ?_⟩
  rw [locate_join dir ho, if_neg, hlast]
  · exact (follow_of_isEntry (directory_of_follow hthen) ho).trans (if_pos hname)
  · intro hmem
    exact (List.mem_append.mp hmem).elim
      (fun hm => hjoint (List.mem_append_left _ hm)) hnull

end Neighbours

end FileTree

end Playscript
