import Mathlib.Data.List.Forall2
import Mathlib.Data.List.Nodup
import Playscript.Proofs.Script.Identifier
import Playscript.Script.Fresh

/-!
# Fresh names

The search for a fresh name tries a fixed number of candidates and has an
answer in reserve for the case that all of them are in use. The case does
not arise: the candidates differ from each other, and there is one more of
them than there are names in use (`exists_candidate_not_mem`).

For a whole list of texts the names in use are threaded through, and their
being pairwise different is the one invariant (`nodup_freshAll`). That the
new names differ from each other and from those in use before are two
readings of it.
-/

namespace Playscript.Script.Identifier

/-! ## One name -/

/-- **A name, or the name with a number from 2 on behind it.** -/
def IsNumbered (base name : String) : Prop :=
  name = base ∨ ∃ n, 2 ≤ n ∧ name = base ++ toString n

/-- Different numbers behind a name make different names. -/
theorem append_toString_injective {base : String} {m n : Nat}
    (h : base ++ toString m = base ++ toString n) : m = n := by
  have hlist := congrArg String.toList h
  rw [String.toList_append, String.toList_append, List.append_cancel_left_eq] at hlist
  have hdigits : Nat.toDigits 10 m = Nat.toDigits 10 n := by
    simpa only [Nat.toString_eq_repr, Nat.toList_repr] using hlist
  simpa using congrArg (fun digits => Nat.ofDigitChars 10 digits 0) hdigits

/-- A name differs from itself with a number behind it. -/
theorem ne_append_toString (base : String) (n : Nat) : base ≠ base ++ toString n := by
  intro h
  have hlist := congrArg String.toList h
  rw [String.toList_append, Nat.toString_eq_repr, Nat.toList_repr] at hlist
  exact Nat.toDigits_ne_nil (List.self_eq_append_right.mp hlist)

/-- The names in the order in which they are tried. -/
def candidate (base : String) : Nat → String
  | 0 => base
  | k + 1 => base ++ toString (k + 2)

/-- No name is tried twice. -/
theorem candidate_injective (base : String) : Function.Injective (candidate base) := by
  intro j k h
  cases j with
  | zero =>
    cases k with
    | zero => rfl
    | succ k => exact absurd h (ne_append_toString base (k + 2))
  | succ j =>
    cases k with
    | zero => exact absurd h.symm (ne_append_toString base (j + 2))
    | succ k =>
      have := append_toString_injective h
      omega

theorem candidates_eq (base : String) (count : Nat) :
    candidates base count = (List.range (count + 1)).map (candidate base) := by
  rw [List.range_succ_eq_map, List.map_cons, List.map_map]
  rfl

/-- **The candidates differ from each other.** -/
theorem nodup_candidates (base : String) (count : Nat) : (candidates base count).Nodup := by
  rw [candidates_eq]
  exact List.Nodup.map (candidate_injective base) List.nodup_range

theorem getElem_candidates {base : String} {count k : Nat}
    (h : k < (candidates base count).length) : (candidates base count)[k] = candidate base k := by
  simp only [candidates_eq, List.getElem_map, List.getElem_range]

theorem isNumbered_of_mem_candidates {base name : String} {count : Nat}
    (h : name ∈ candidates base count) : IsNumbered base name := by
  rcases List.mem_cons.mp h with h | h
  · exact Or.inl h
  · obtain ⟨k, -, rfl⟩ := List.mem_map.mp h
    exact Or.inr ⟨k + 2, by omega, rfl⟩

/-- There are more candidates than names in use, so one of them is free. -/
theorem exists_candidate_not_mem (used : List String) (base : String) :
    ∃ name ∈ candidates base used.length, name ∉ used := by
  by_cases h : ∃ name ∈ candidates base used.length, name ∉ used
  · exact h
  · -- otherwise more different names would be in use than there are
    have hsub : candidates base used.length ⊆ used := by
      intro name hm
      by_cases hu : name ∈ used
      · exact hu
      · exact absurd ⟨name, hm, hu⟩ h
    have hle := (nodup_candidates base used.length).length_le_of_subset hsub
    simp only [candidates, List.length_cons, List.length_map, List.length_range] at hle
    omega

/-- The search answers with a candidate that is free. -/
theorem find?_candidates (used : List String) (raw : String) :
    (candidates (legalize raw).text used.length).find? (!used.contains ·)
      = some (freshText used raw) := by
  rw [freshText]
  cases hf : (candidates (legalize raw).text used.length).find? (!used.contains ·) with
  | some name => rfl
  | none =>
    obtain ⟨name, hm, hu⟩ := exists_candidate_not_mem used (legalize raw).text
    have := List.find?_eq_none.mp hf name hm
    simp [hu] at this

/-- **A fresh name is not in use.** -/
theorem freshText_not_mem (used : List String) (raw : String) : freshText used raw ∉ used := by
  have h := List.find?_some (find?_candidates used raw)
  simpa using h

/-- A fresh name is the mended text, perhaps with a number behind it. -/
theorem isNumbered_freshText (used : List String) (raw : String) :
    IsNumbered (legalize raw).text (freshText used raw) :=
  isNumbered_of_mem_candidates (List.mem_of_find?_eq_some (find?_candidates used raw))

/-- A number behind a valid name leaves it valid. -/
theorem isValid_of_isNumbered {base name : String} (h : IsNumbered base name)
    (hbase : (mk base).isValid = true) : (mk name).isValid = true := by
  rcases h with rfl | ⟨n, -, rfl⟩
  · exact hbase
  · have hdigit : ∀ c ∈ (toString n).toList, c.isDigit = true := by
      intro c hc
      rw [Nat.toString_eq_repr, Nat.toList_repr] at hc
      exact Nat.isDigit_of_mem_toDigits (by omega) (by omega) hc
    -- a number has at least one digit, and a digit rules out reserved words
    obtain ⟨c, hc⟩ : ∃ c, c ∈ (toString n).toList := by
      rw [Nat.toString_eq_repr, Nat.toList_repr]
      exact List.exists_mem_of_ne_nil _ Nat.toDigits_ne_nil
    rw [isValid_iff] at hbase ⊢
    refine ⟨?_, not_mem_reservedWords (c := c) ?_ (Or.inl (hdigit c hc))⟩
    · rw [String.toList_append]
      exact hbase.1.append fun d hd => isNameChar_of_isDigit (hdigit d hd)
    · rw [String.toList_append]
      exact List.mem_append_right _ hc

/-- A fresh name is valid. -/
theorem isValid_freshText (used : List String) (raw : String) :
    (mk (freshText used raw)).isValid = true :=
  isValid_of_isNumbered (isNumbered_freshText used raw) (isValid_legalize raw)

/-- The fresh identifier is the name that was found: mending it a second
time changes nothing. -/
theorem fresh_eq (used : List String) (raw : String) :
    fresh used raw = (⟨freshText used raw⟩, freshText used raw :: used) := by
  rw [fresh, legalize_of_isValid (isValid_freshText used raw)]

/-! ## Several names -/

/-- The names in use in the end are the new ones, last first, and those
before. -/
theorem freshAll_snd (used raws : List String) :
    (freshAll used raws).2 = ((freshAll used raws).1.map (·.text)).reverse ++ used := by
  induction raws generalizing used with
  | nil => rfl
  | cons raw raws ih =>
    rw [freshAll, fresh_eq]
    show (freshAll (freshText used raw :: used) raws).2 = _
    rw [ih, List.map_cons, List.reverse_cons, List.append_assoc]
    rfl

/-- **The names in use stay different from each other.** -/
theorem nodup_freshAll {used : List String} (h : used.Nodup) (raws : List String) :
    (freshAll used raws).2.Nodup := by
  induction raws generalizing used with
  | nil => exact h
  | cons raw raws ih =>
    rw [freshAll, fresh_eq]
    exact ih (List.nodup_cons.mpr ⟨freshText_not_mem used raw, h⟩)

/-- A numbered name may be what another text is mended to. -/
example : (freshAll ["open"] ["open", "open2", "open"]).2
    = ["open3", "open22", "open2", "open"] := by decide

/-- **Each text gets a valid name of its own**, which is the mended text or
that with a number behind it. -/
theorem forall₂_freshAll (used raws : List String) :
    List.Forall₂ (fun raw name => IsNumbered (legalize raw).text name.text ∧ name.isValid = true)
      raws (freshAll used raws).1 := by
  induction raws generalizing used with
  | nil => exact List.Forall₂.nil
  | cons raw raws ih =>
    rw [freshAll, fresh_eq]
    exact List.Forall₂.cons ⟨isNumbered_freshText used raw, isValid_freshText used raw⟩ (ih _)

/-- **Texts that come later take no name away** from those before them. -/
theorem freshAll_append (used raws others : List String) :
    freshAll used (raws ++ others)
      = ((freshAll used raws).1 ++ (freshAll (freshAll used raws).2 others).1,
        (freshAll (freshAll used raws).2 others).2) := by
  induction raws generalizing used with
  | nil => rfl
  | cons raw raws ih =>
    rw [List.cons_append, freshAll, freshAll, fresh_eq]
    dsimp only
    rw [ih]
    rfl

/-- There are as many names as texts. -/
theorem length_freshAll (used raws : List String) :
    (freshAll used raws).1.length = raws.length :=
  (forall₂_freshAll used raws).length_eq.symm

end Playscript.Script.Identifier
