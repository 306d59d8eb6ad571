/-!
# Tables

A table maps names to values and lists its entries in the order of the
names. Putting an entry replaces the one of the same name, so a table
built from a list of entries holds the last value given for each name.
-/

namespace Playscript

/-- **A table of values by name**, its entries in the order of the names. -/
structure Table (α : Type) where
  /-- The entries, each name once and in increasing order. -/
  entries : List (String × α)
deriving Repr, DecidableEq

namespace Table

variable {α : Type}

/-- The table without entries. -/
def empty : Table α := ⟨[]⟩

/-- The entries of a table with the value of one name replaced, or put at
its place when the name is new. -/
def place (name : String) (value : α) : List (String × α) → List (String × α)
  | [] => [(name, value)]
  | (key, old) :: rest =>
    if name = key then (name, value) :: rest
    else if name < key then (name, value) :: (key, old) :: rest
    else (key, old) :: place name value rest

/-- **Adds or replaces the entry of a name.** -/
def put (t : Table α) (name : String) (value : α) : Table α :=
  ⟨place name value t.entries⟩

/-- The value of a name. -/
def get? (t : Table α) (name : String) : Option α :=
  t.entries.lookup name

/-- Adds entries in turn, later ones replacing earlier ones. -/
def putAll (t : Table α) (entries : List (String × α)) : Table α :=
  entries.foldl (fun t entry => t.put entry.1 entry.2) t

@[simp] theorem get?_empty (name : String) : (empty : Table α).get? name = none := rfl

theorem lookup_place (name other : String) (value : α) (entries : List (String × α)) :
    (place name value entries).lookup other
      = if other = name then some value else entries.lookup other := by
  induction entries with
  | nil =>
    by_cases h : other = name
    · simp [place, h]
    · simp [place, List.lookup_cons, beq_eq_false_iff_ne.mpr h, h]
  | cons entry rest ih =>
    obtain ⟨key, old⟩ := entry
    rw [place]
    split
    · subst key
      by_cases h : other = name
      · simp [h]
      · simp [List.lookup_cons, beq_eq_false_iff_ne.mpr h, h]
    · split
      · by_cases h : other = name
        · simp [h]
        · simp [List.lookup_cons, beq_eq_false_iff_ne.mpr h, h]
      · by_cases hk : other = key
        · subst hk
          have hn : ¬ other = name := fun h => by simp_all
          simp [hn]
        · simp only [List.lookup_cons, beq_eq_false_iff_ne.mpr hk, ih]

/-- **A table answers with what was put last.** -/
@[simp] theorem get?_put (t : Table α) (name other : String) (value : α) :
    (t.put name value).get? other = if other = name then some value else t.get? other :=
  lookup_place name other value t.entries

end Table

end Playscript
