import Mathlib.Data.Finset.Card
import Mathlib.Order.Bounds.Basic
import Playscript.Proofs.Script.Fresh

/-!
# The search for a free name

Names are tried one after the other: the mended text, the same with 2 behind
it, with 3, and so on, until one is not in use. Nothing in this bounds the
search (`SearchEnds`), and trying a fixed number of candidates can stand for it
only because it always ends in time. All names that are tried before the free
one are in use, and they differ from each other, so they are no more than the
names in use (`le_card_of_forall_mem`).

The names in use are a set that is given as a list. A name may stand in the
list twice, so the number of names is that of the set.
-/

namespace Playscript.Script.Identifier

/-- **A search that ends.** It is begun with a name to try and the number for
the one after it, and ends with a name that was found and how many were tried.
A search that goes on forever has no such end. -/
inductive SearchEnds (used : List String) (base : String) :
    String → Nat → String → Nat → Prop where
  /-- A name that is free is found. -/
  | free {name : String} {next : Nat} (h : name ∉ used) : SearchEnds used base name next name 1
  /-- While the name at hand is in use, the search goes on with the next number
  behind the base. -/
  | taken {name found : String} {next tried : Nat} (h : name ∈ used)
      (hrest : SearchEnds used base (base ++ toString next) (next + 1) found tried) :
      SearchEnds used base name next found (tried + 1)

/-- A search ends in one way only. -/
theorem SearchEnds.unique {used : List String} {base name found other : String}
    {next tried count : Nat} (h : SearchEnds used base name next found tried)
    (h' : SearchEnds used base name next other count) : other = found ∧ count = tried := by
  induction h generalizing count with
  | free hfree =>
    cases h' with
    | free => exact ⟨rfl, rfl⟩
    | taken hused => exact absurd hused hfree
  | taken hused hrest ih =>
    cases h' with
    | free hfree => exact absurd hused hfree
    | taken _ hrest' =>
      obtain ⟨hfound, htried⟩ := ih hrest'
      exact ⟨hfound, congrArg (· + 1) htried⟩

/-! ## The name that is found -/

/-- **Names that are tried in vain** are no more than the names in use. -/
theorem le_card_of_forall_mem {used : List String} {base : String} {k : Nat}
    (h : ∀ j < k, candidate base j ∈ used) : k ≤ used.toFinset.card := by
  have hle := Finset.card_le_card_of_injOn (s := Finset.range k) (t := used.toFinset)
    (candidate base) (fun j hj => List.mem_toFinset.mpr (h j (Finset.mem_range.mp hj)))
    (candidate_injective base).injOn
  rwa [Finset.card_range] at hle

/-- **From any candidate in front of the first free one** the search goes on to
that, through names that are in use. -/
theorem searchEnds_candidate {used : List String} {base : String} {k : Nat}
    (hused : ∀ j < k, candidate base j ∈ used) (hfree : candidate base k ∉ used)
    {start steps : Nat} (h : start + steps = k) :
    SearchEnds used base (candidate base start) (start + 2) (candidate base k) (steps + 1) := by
  induction steps generalizing start with
  | zero =>
    obtain rfl : start = k := h
    exact .free hfree
  | succ steps ih =>
    have hnext : start + 1 + steps = k := by omega
    -- the next candidate is the base with the number at hand behind it
    have hrest : SearchEnds used base (base ++ toString (start + 2)) (start + 2 + 1)
        (candidate base k) (steps + 1) := ih hnext
    exact .taken (hused start (by omega)) hrest

/-- A fresh name is the first of the candidates that is free. -/
theorem exists_freshText_eq (used : List String) (raw : String) :
    ∃ k, freshText used raw = candidate (legalize raw).text k
      ∧ candidate (legalize raw).text k ∉ used
      ∧ ∀ j < k, candidate (legalize raw).text j ∈ used := by
  obtain ⟨hfree, k, hk, he, hbefore⟩ :=
    List.find?_eq_some_iff_getElem.mp (find?_candidates used raw)
  rw [getElem_candidates] at he
  refine ⟨k, he.symm, ?_, fun j hj => ?_⟩
  · rw [he]
    simpa using hfree
  · have hj' := hbefore j hj
    rw [getElem_candidates] at hj'
    simpa using hj'

/-- The number behind a name that is not the first candidate is the least one
with a free name. -/
theorem isLeast_of_forall_mem {used : List String} {base : String} {k : Nat}
    (hused : ∀ j < k + 1, candidate base j ∈ used) (hfree : candidate base (k + 1) ∉ used) :
    IsLeast {n | 2 ≤ n ∧ base ++ toString n ∉ used} (k + 2) := by
  refine ⟨⟨by omega, hfree⟩, ?_⟩
  rintro n ⟨hn, hnfree⟩
  obtain ⟨m, rfl⟩ := Nat.exists_eq_add_of_le' hn
  by_contra hlt
  exact hnfree (hused (m + 1) (by omega))

/-- **The search ends, with the least free name.** It ends in one way, after at
most one name more than there are in use. What it finds is the mended text if
that is free, and otherwise the mended text with the least number from 2 on
behind it that makes it free. This passes the check as it is, was not in use,
and is the one name that is in use thereafter and was not before. -/
theorem fresh_isLeastFree (used : List String) (raw : String) :
    (∃ tried ≤ used.toFinset.card + 1,
        ∀ found count, SearchEnds used (legalize raw).text (legalize raw).text 2 found count
          ↔ found = (fresh used raw).1.text ∧ count = tried)
      ∧ ((legalize raw).text ∉ used ∧ (fresh used raw).1 = legalize raw
        ∨ (legalize raw).text ∈ used
          ∧ ∃ n, IsLeast {n | 2 ≤ n ∧ (legalize raw).text ++ toString n ∉ used} n
            ∧ (fresh used raw).1.text = (legalize raw).text ++ toString n)
      ∧ check (fresh used raw).1.text = .ok (fresh used raw).1
      ∧ (fresh used raw).1.text ∉ used
      ∧ (fresh used raw).2 = (fresh used raw).1.text :: used := by
  rw [fresh_eq]
  obtain ⟨k, hname, hfree, hused⟩ := exists_freshText_eq used raw
  have hends : SearchEnds used (legalize raw).text (legalize raw).text 2 (freshText used raw)
      (k + 1) := by
    rw [hname]
    exact searchEnds_candidate hused hfree (Nat.zero_add k)
  refine ⟨⟨k + 1, Nat.succ_le_succ (le_card_of_forall_mem hused), fun found count => ?_⟩, ?_,
    check_eq_ok (isValid_freshText used raw), freshText_not_mem used raw, rfl⟩
  · constructor
    · exact hends.unique
    · rintro ⟨rfl, rfl⟩
      exact hends
  · rw [hname]
    cases k with
    | zero => exact Or.inl ⟨hfree, rfl⟩
    | succ k =>
      exact Or.inr ⟨hused 0 (by omega), k + 2, isLeast_of_forall_mem hused hfree, rfl⟩

end Playscript.Script.Identifier
