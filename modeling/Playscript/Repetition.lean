/-!
# Repetitions

Names that must differ are checked by looking for the first that repeats
an earlier one.
-/

namespace Playscript

/-- The first name that is among those seen or repeats an earlier one. -/
def firstRepeatedFrom? (seen : List String) : List String → Option String
  | [] => none
  | name :: rest =>
    if seen.contains name then some name else firstRepeatedFrom? (name :: seen) rest

/-- **The first name of a list that repeats an earlier one.** -/
def firstRepeated? (names : List String) : Option String :=
  firstRepeatedFrom? [] names

/-- Names that differ, and none of which has been seen. -/
def AreNew (seen names : List String) : Prop :=
  names.Nodup ∧ ∀ name ∈ names, name ∉ seen

section

variable {seen names rest : List String} {first name : String}

/-- The first of them counts as seen for those behind it. -/
theorem areNew_cons :
    AreNew seen (first :: rest) ↔ first ∉ seen ∧ AreNew (first :: seen) rest := by
  rw [AreNew, AreNew, List.nodup_cons, List.forall_mem_cons]
  simp only [List.mem_cons, not_or]
  constructor
  · rintro ⟨⟨hm, hnodup⟩, hfirst, hrest⟩
    exact ⟨hfirst, hnodup, fun other ho => ⟨fun he => hm (he ▸ ho), hrest other ho⟩⟩
  · rintro ⟨hfirst, hnodup, hrest⟩
    exact ⟨⟨fun hm => (hrest first hm).1 rfl, hnodup⟩, hfirst, fun other ho => (hrest other ho).2⟩

theorem firstRepeatedFrom?_eq_none_iff :
    firstRepeatedFrom? seen names = none ↔ AreNew seen names := by
  induction names generalizing seen with
  | nil => simp [firstRepeatedFrom?, AreNew]
  | cons name rest ih =>
    rw [firstRepeatedFrom?, areNew_cons]
    split
    · next h => exact iff_of_false nofun fun hnew => hnew.1 (List.contains_iff_mem.mp h)
    · next h =>
      rw [ih]
      exact (and_iff_right fun hm => h (List.contains_iff_mem.mpr hm)).symm

end

/-- **Nothing is found exactly when the names differ.** -/
theorem firstRepeated?_eq_none_iff {names : List String} :
    firstRepeated? names = none ↔ names.Nodup := by
  simp [firstRepeated?, firstRepeatedFrom?_eq_none_iff, AreNew]

/-- **A name is the first of a list to repeat an earlier one**: it stands
behind one that is equal to it, and all that stand in front of it differ. -/
def IsFirstRepeated (names : List String) (name : String) : Prop :=
  ∃ front behind, names = front ++ name :: behind ∧ front.Nodup ∧ name ∈ front

theorem firstRepeatedFrom?_eq_some_iff {seen names : List String} {name : String} :
    firstRepeatedFrom? seen names = some name
      ↔ ∃ front behind, names = front ++ name :: behind ∧ AreNew seen front
        ∧ (name ∈ front ∨ name ∈ seen) := by
  induction names generalizing seen with
  | nil => simp [firstRepeatedFrom?]
  | cons first rest ih =>
    rw [firstRepeatedFrom?]
    split
    · next hseen =>
      have hfirst : first ∈ seen := List.contains_iff_mem.mp hseen
      constructor
      · intro h
        obtain rfl := Option.some.inj h
        exact ⟨[], rest, rfl, ⟨List.nodup_nil, nofun⟩, .inr hfirst⟩
      · rintro ⟨front, behind, he, hnew, -⟩
        -- nothing stands in front, since what does was not seen
        cases front with
        | nil => rw [(List.cons.inj he).1]
        | cons other front =>
          obtain rfl := (List.cons.inj he).1
          exact absurd hfirst (areNew_cons.mp hnew).1
    · next hseen =>
      have hfirst : first ∉ seen := fun hm => hseen (List.contains_iff_mem.mpr hm)
      have hearlier (front : List String) :
          name ∈ first :: front ∨ name ∈ seen ↔ name ∈ front ∨ name ∈ first :: seen := by
        rw [List.mem_cons, List.mem_cons, or_assoc, or_left_comm]
      rw [ih]
      constructor
      · rintro ⟨front, behind, rfl, hnew, hname⟩
        exact ⟨first :: front, behind, rfl, areNew_cons.mpr ⟨hfirst, hnew⟩,
          (hearlier front).mpr hname⟩
      · rintro ⟨front, behind, he, hnew, hname⟩
        cases front with
        | nil =>
          obtain rfl := (List.cons.inj he).1
          exact absurd (hname.resolve_left List.not_mem_nil) hfirst
        | cons other front =>
          obtain ⟨rfl, rfl⟩ := List.cons.inj he
          exact ⟨front, behind, rfl, (areNew_cons.mp hnew).2, (hearlier front).mp hname⟩

/-- **What is found is the first that repeats an earlier one.** -/
theorem firstRepeated?_eq_some_iff {names : List String} {name : String} :
    firstRepeated? names = some name ↔ IsFirstRepeated names name := by
  rw [firstRepeated?, firstRepeatedFrom?_eq_some_iff, IsFirstRepeated]
  simp [AreNew]

end Playscript
