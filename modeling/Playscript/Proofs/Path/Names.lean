import Playscript.Proofs.Path.Components

/-!
# Names in directories

A path that was made by joining a name to a directory has that name for its
last component, whatever the directory is. So such paths are told apart by
their names (`Path.same_join_iff`), they come in the order of their names
(`Path.le_join`), and what a name has before a suffix is found in them
(`Path.stem?_join`).

The text of a directory does not matter to any of this, though it decides how
the joined path is written: `a`, `a/` and `a/.` name one directory, and the
paths into it are written in three ways and say the same.
-/

namespace Playscript

namespace Path

/-! ## What a name has before a suffix -/

/-- **A path has a stem before a suffix** exactly if its name is the stem with
the suffix behind it, and the stem is not empty. -/
theorem stem?_eq_some_iff {path : Path} {suffix base : String} :
    path.stem? suffix = some base ↔ path.fileName? = some (base ++ suffix) ∧ base ≠ "" := by
  rw [stem?, Option.bind_eq_bind, Option.bind_eq_some_iff]
  constructor
  · rintro ⟨name, hname, hstem⟩
    extract_lets text stem at hstem
    split at hstem
    · next hwhole =>
      obtain rfl := Option.some.inj hstem
      rw [Bool.and_eq_true, decide_eq_true_eq, decide_eq_true_eq] at hwhole
      refine ⟨?_, fun he => hwhole.2 ?_⟩
      · rw [hname, Option.some.injEq, ← String.toList_inj, String.toList_append,
          String.toList_ofList, hwhole.1]
      · rw [← String.toList_ofList (l := stem), he, String.toList_empty]
    · cases hstem
  · rintro ⟨hname, hne⟩
    refine ⟨base ++ suffix, hname, ?_⟩
    have htake : (base ++ suffix).toList.take
        ((base ++ suffix).toList.length - suffix.toList.length) = base.toList := by
      rw [String.toList_append, List.length_append, Nat.add_sub_cancel, List.take_left]
    dsimp only
    rw [htake, String.toList_append, if_pos, String.ofList_toList]
    rw [Bool.and_eq_true, decide_eq_true_eq, decide_eq_true_eq]
    exact ⟨rfl, fun hnil => hne (String.toList_eq_nil_iff.mp hnil)⟩

/-- **What has a stem before a suffix ends in the suffix.** -/
theorem fileName?_of_stem? {path : Path} {suffix base : String}
    (h : path.stem? suffix = some base) : path.fileName? = some (base ++ suffix) :=
  (stem?_eq_some_iff.mp h).1

/-- **The stem of a joined name** does not depend on the directory. -/
theorem stem?_join (dir : Path) {name suffix base : String} (h : IsEntry name) :
    (dir.join ⟨name⟩).stem? suffix = some base ↔ name = base ++ suffix ∧ base ≠ "" := by
  rw [stem?_eq_some_iff, fileName?_join dir h, Option.some.injEq]

/-- A stem holds no slash. -/
theorem of_stem? {path : Path} {suffix base : String} (h : path.stem? suffix = some base) :
    base ≠ "" ∧ ∀ c ∈ base.toList, c ≠ '/' := by
  obtain ⟨hname, hne⟩ := stem?_eq_some_iff.mp h
  refine ⟨hne, fun c hc => (of_fileName? hname).2 c ?_⟩
  rw [String.toList_append]
  exact List.mem_append_left _ hc

/-- A stem makes an entry with another suffix. -/
theorem isEntry_of_stem? {path : Path} {suffix base other : String}
    (h : path.stem? suffix = some base) (hslash : '/' ∉ other.toList)
    (hlength : 3 ≤ other.toList.length) : IsEntry (base ++ other) := by
  refine .of_length (fun c hc => ?_) ?_
  · rw [String.toList_append] at hc
    exact (List.mem_append.mp hc).elim ((of_stem? h).2 c) (List.forall_mem_ne'.mpr hslash c)
  · rw [String.toList_append, List.length_append]
    omega

/-! ## Names tell paths apart -/

theorem same_iff {a b : Path} : a.same b = true ↔ a.components = b.components :=
  decide_eq_true_iff

theorem same_comm (a b : Path) : a.same b = b.same a := by
  rw [Bool.eq_iff_iff, same_iff, same_iff, eq_comm]

/-- Paths that say the same are the same for every other path. -/
theorem same_congr {a b : Path} (h : a.same b = true) (path : Path) :
    a.same path = b.same path := by
  rw [same, same, same_iff.mp h]

/-- **Paths with different names differ**, whatever the directories are. -/
theorem name_eq_of_same_join {dir other : Path} {name last : String} (h : IsEntry name)
    (h' : IsEntry last) (hsame : (dir.join ⟨name⟩).same (other.join ⟨last⟩) = true) :
    name = last := by
  rw [same_iff, components_join dir h, components_join other h'] at hsame
  exact Component.entry.inj (List.singleton_inj.mp (List.append_inj_right' hsame rfl))

/-- In one directory they differ in nothing else. -/
theorem same_join_iff (dir : Path) {name last : String} (h : IsEntry name) (h' : IsEntry last) :
    (dir.join ⟨name⟩).same (dir.join ⟨last⟩) = true ↔ name = last := by
  refine ⟨name_eq_of_same_join h h', ?_⟩
  rintro rfl
  exact same_iff.mpr rfl

/-! ## The order of names -/

theorem Component.compare_self (component : Component) : component.compare component = .eq := by
  cases component with
  | entry name => exact (compareOfLessAndEq_eq_eq String.le_refl String.not_le).mpr rfl
  | root | here | up => rfl

/-- What two paths begin with does not matter to their order. -/
theorem compareAll_append (front others others' : List Component) :
    compareAll (front ++ others) (front ++ others') = compareAll others others' := by
  induction front with
  | nil => rfl
  | cons component front ih =>
    rw [List.cons_append, List.cons_append, compareAll, Component.compare_self, ih]
    rfl

/-- **Paths into one directory come in the order of their names.** -/
theorem le_join (dir : Path) {name last : String} (h : IsEntry name) (h' : IsEntry last) :
    (dir.join ⟨name⟩).le (dir.join ⟨last⟩) = decide (name ≤ last) := by
  rw [le, components_join dir h, components_join dir h', compareAll_append]
  show ((compareOfLessAndEq name last).then .eq).isLE = _
  rw [Ordering.then_eq, Bool.eq_iff_iff, decide_eq_true_iff]
  exact isLE_compareOfLessAndEq String.le_antisymm String.not_le String.le_total

end Path

end Playscript
