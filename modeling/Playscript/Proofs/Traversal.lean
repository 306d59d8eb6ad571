import Mathlib.Data.List.Forall2

/-!
# Lists that are read item by item

Reading a list, or building from one, goes item by item and fails with the
first item that fails. Two facts are all that is needed of it: where no
item fails the result is a plain map, in whatever monad the failure lives,
and where nothing failed the results are those of the items.

Elsewhere two lists are made side by side and then put together item by
item. What corresponds before corresponds after (`forall₂_map_zip`).
-/

namespace Playscript

variable {α β : Type}

/-- Where every item succeeds, so does the list. -/
theorem mapM_eq_pure {m : Type → Type} [Monad m] [LawfulMonad m] {f : α → m β} {g : α → β}
    {items : List α} (h : ∀ item ∈ items, f item = pure (g item)) :
    items.mapM f = pure (items.map g) := by
  induction items with
  | nil => rfl
  | cons item items ih =>
    rw [List.mapM_cons, h item List.mem_cons_self,
      ih (fun other ho => h other (List.mem_cons_of_mem _ ho)), pure_bind, pure_bind]
    rfl

/-- Items that are each read from what they were made into are read from the
list of it. -/
theorem mapM_map_eq_some {write : α → β} {read : β → Option α} {items : List α}
    (h : ∀ item ∈ items, read (write item) = some item) :
    (items.map write).mapM read = some items := by
  have hall : items.mapM (read ∘ write) = pure (items.map id) := mapM_eq_pure h
  rw [List.mapM_map, hall, List.map_id]
  rfl

/-- A list succeeds with the results of its items. -/
theorem mapM_eq_some_iff {f : α → Option β} {items : List α} {results : List β} :
    items.mapM f = some results
      ↔ List.Forall₂ (fun item result => f item = some result) items results := by
  induction items generalizing results with
  | nil =>
    rw [List.forall₂_nil_left_iff]
    exact ⟨fun h => (Option.some.inj h).symm, fun h => h ▸ rfl⟩
  | cons item items ih =>
    rw [List.mapM_cons, List.forall₂_cons_left_iff]
    simp only [Option.bind_eq_bind, Option.bind_eq_some_iff, Option.pure_def,
      Option.some.injEq, ih]
    constructor
    · rintro ⟨first, hfirst, others, hothers, rfl⟩
      exact ⟨first, others, hfirst, hothers, rfl⟩
    · rintro ⟨first, others, hfirst, hothers, rfl⟩
      exact ⟨first, hfirst, others, hothers, rfl⟩

/-- Items that are read in two goes are read in one. -/
theorem mapM_bind_mapM {γ : Type} (f : α → Option β) (g : β → Option γ) (items : List α) :
    (items.mapM f).bind (·.mapM g) = items.mapM fun item => (f item).bind g := by
  induction items with
  | nil => rfl
  | cons item items ih =>
    rw [List.mapM_cons, List.mapM_cons, ← ih]
    cases f item with
    | none => rfl
    | some middle =>
      cases items.mapM f with
      | none => cases h : g middle <;> simp [h]
      | some others => simp [List.mapM_cons]

/-- Where every item has a result, the list has a list of results. -/
theorem exists_forall₂ {R : α → β → Prop} {items : List α}
    (h : ∀ item ∈ items, ∃ result, R item result) : ∃ results, List.Forall₂ R items results := by
  induction items with
  | nil => exact ⟨[], List.Forall₂.nil⟩
  | cons item items ih =>
    obtain ⟨result, hr⟩ := h item List.mem_cons_self
    obtain ⟨results, hrs⟩ := ih fun other ho => h other (List.mem_cons_of_mem _ ho)
    exact ⟨result :: results, List.Forall₂.cons hr hrs⟩

/-- Where every item succeeds with its result, so does the list. -/
theorem mapM_eq_ok_of_forall₂ {ε : Type} {f : α → Except ε β} {items : List α} {results : List β}
    (h : List.Forall₂ (fun item result => f item = .ok result) items results) :
    items.mapM f = .ok results := by
  induction h with
  | nil => rfl
  | cons hr _ ih =>
    rw [List.mapM_cons, hr, ih]
    rfl

/-- Items put together with what corresponds to them correspond to the
results. -/
theorem forall₂_map_zip {γ : Type} {R : α → γ → Prop} {S : α → β → Prop} {join : α × γ → β}
    (hjoin : ∀ item other, R item other → S item (join (item, other)))
    {items : List α} {others : List γ} (h : List.Forall₂ R items others) :
    List.Forall₂ S items ((items.zip others).map join) := by
  induction h with
  | nil => exact List.Forall₂.nil
  | cons hr _ ih => exact List.Forall₂.cons (hjoin _ _ hr) ih

/-- Items that correspond by way of a third list correspond. -/
theorem forall₂_comp {γ : Type} {R : α → β → Prop} {S : β → γ → Prop} {items : List α}
    {middle : List β} {others : List γ} (h : List.Forall₂ R items middle)
    (h' : List.Forall₂ S middle others) :
    List.Forall₂ (fun item other => ∃ between ∈ middle, R item between ∧ S between other)
      items others := by
  induction h generalizing others with
  | nil =>
    cases h'
    exact List.Forall₂.nil
  | cons hr _ ih =>
    cases h' with
    | cons hs h' =>
      refine List.Forall₂.cons ⟨_, List.mem_cons_self, hr, hs⟩ ((ih h').imp ?_)
      rintro item other ⟨between, hm, hr, hs⟩
      exact ⟨between, List.mem_cons_of_mem _ hm, hr, hs⟩

/-- Where corresponding items agree in something, so do the lists. -/
theorem map_eq_map_of_forall₂ {γ : Type} {f : α → γ} {g : β → γ} {items : List α}
    {others : List β} (h : List.Forall₂ (fun item other => g other = f item) items others) :
    others.map g = items.map f := by
  induction h with
  | nil => rfl
  | cons he _ ih => rw [List.map_cons, List.map_cons, he, ih]

/-- What corresponds to an item that is there is there too. -/
theorem exists_mem_of_forall₂ {R : α → β → Prop} {items : List α} {others : List β}
    (h : List.Forall₂ R items others) {item : α} (hm : item ∈ items) :
    ∃ other ∈ others, R item other := by
  induction h with
  | nil => cases hm
  | @cons first second _ _ hr _ ih =>
    rcases List.mem_cons.mp hm with rfl | hm
    · exact ⟨second, List.mem_cons_self, hr⟩
    · obtain ⟨other, ho, hR⟩ := ih hm
      exact ⟨other, List.mem_cons_of_mem _ ho, hR⟩

/-- Where the list succeeds, each result is the result of an item. -/
theorem exists_of_mapM_eq_some {f : α → Option β} {items : List α} {results : List β}
    (h : items.mapM f = some results) {result : β} (hr : result ∈ results) :
    ∃ item ∈ items, f item = some result :=
  exists_mem_of_forall₂ (mapM_eq_some_iff.mp h).flip hr

end Playscript
