import Playscript.Step

/-!
# Step maps

A step map holds the understood steps of a feature, scenario by scenario.
Scenarios stand in the order in which their names were first put in; a
name that is put in again keeps its place and gets the new steps. So the
names are those ever put in, in the order of their first appearance, and
the steps are those put in last.
-/

namespace Playscript

/-- **The steps of the scenarios of a feature**, by name and in order. -/
structure StepMap where
  /-- The scenarios in order. -/
  scenarios : List (String × List Step)
  /-- Each name stands once. -/
  nodup : (scenarios.map Prod.fst).Nodup
deriving DecidableEq

namespace StepMap

/-- The scenarios with the steps of one name replaced, or put last when
the name is new. -/
def place (name : String) (steps : List Step) :
    List (String × List Step) → List (String × List Step)
  | [] => [(name, steps)]
  | (other, old) :: rest =>
    if other = name then (name, steps) :: rest else (other, old) :: place name steps rest

/-- The names after an insertion: the same ones, or the new one behind
them. -/
theorem names_place (name : String) (steps : List Step) (scenarios : List (String × List Step)) :
    (place name steps scenarios).map Prod.fst
      = if name ∈ scenarios.map Prod.fst then scenarios.map Prod.fst
        else scenarios.map Prod.fst ++ [name] := by
  induction scenarios with
  | nil => rfl
  | cons scenario rest ih =>
    obtain ⟨other, old⟩ := scenario
    rw [place]
    split
    · next h => simp [h]
    · next h =>
      have h' : ¬ name = other := fun e => h e.symm
      simp only [List.map_cons, ih, List.mem_cons, h', false_or]
      split <;> rfl

/-- The map without scenarios. -/
def empty : StepMap := ⟨[], List.nodup_nil⟩

/-- **Puts in the steps of a scenario.** -/
def insert (map : StepMap) (name : String) (steps : List Step) : StepMap where
  scenarios := place name steps map.scenarios
  nodup := by
    rw [names_place]
    split
    · exact map.nodup
    · next h =>
      refine List.nodup_append.mpr ⟨map.nodup, by simp, fun a ha b hb => ?_⟩
      rw [List.mem_singleton.mp hb]
      exact fun e => h (e ▸ ha)

/-- The scenarios with the steps of one name put in, and the steps that
this replaces. -/
def displace (name : String) (steps : List Step) :
    List (String × List Step) → Option (List Step) × List (String × List Step)
  | [] => (none, [(name, steps)])
  | (other, old) :: rest =>
    if other = name then (some old, (name, steps) :: rest)
    else
      let (replaced, rest) := displace name steps rest
      (replaced, (other, old) :: rest)

/-- What is replaced is what is found under the name. -/
theorem displace_eq (name : String) (steps : List Step) (scenarios : List (String × List Step)) :
    displace name steps scenarios = (scenarios.lookup name, place name steps scenarios) := by
  induction scenarios with
  | nil => rfl
  | cons scenario rest ih =>
    obtain ⟨other, old⟩ := scenario
    rw [displace, place]
    split
    · next h => rw [h, List.lookup_cons_self]
    · next h =>
      have h' : (name == other) = false := beq_eq_false_iff_ne.mpr (Ne.symm h)
      rw [ih, List.lookup_cons, h']

/-- **Puts in the steps of a scenario and gives back those they
replace.** -/
def exchange (map : StepMap) (name : String) (steps : List Step) :
    Option (List Step) × StepMap :=
  ((displace name steps map.scenarios).1,
    { scenarios := (displace name steps map.scenarios).2
      nodup := by
        rw [displace_eq]
        exact (map.insert name steps).nodup })

/-- Puts in scenarios one after the other. -/
def insertAll (map : StepMap) (scenarios : List (String × List Step)) : StepMap :=
  scenarios.foldl (fun map scenario => map.insert scenario.1 scenario.2) map

/-- The steps of a scenario. -/
def get? (map : StepMap) (name : String) : Option (List Step) :=
  map.scenarios.lookup name

/-- Whether a scenario is in the map. -/
def contains (map : StepMap) (name : String) : Bool :=
  (map.get? name).isSome

/-- The names of the scenarios in order. -/
def names (map : StepMap) : List String :=
  map.scenarios.map Prod.fst

/-- All steps of all scenarios in order. -/
def steps (map : StepMap) : List Step :=
  map.scenarios.flatMap Prod.snd

/-- How many scenarios there are. -/
def size (map : StepMap) : Nat :=
  map.scenarios.length

/-- Whether there are no scenarios. -/
def isEmpty (map : StepMap) : Bool :=
  map.scenarios.isEmpty

/-- **The map of a list of scenarios**, put in one after the other. -/
def ofList (scenarios : List (String × List Step)) : StepMap :=
  empty.insertAll scenarios

/-! ## What an insertion changes -/

theorem lookup_place (name other : String) (steps : List Step)
    (scenarios : List (String × List Step)) :
    (place name steps scenarios).lookup other
      = if other = name then some steps else scenarios.lookup other := by
  induction scenarios with
  | nil =>
    by_cases h : other = name
    · simp [place, h]
    · simp [place, List.lookup_cons, beq_eq_false_iff_ne.mpr h, h]
  | cons scenario rest ih =>
    obtain ⟨key, old⟩ := scenario
    rw [place]
    split
    · next h =>
      subst h
      by_cases h : other = key
      · simp [h]
      · simp [List.lookup_cons, beq_eq_false_iff_ne.mpr h, h]
    · next h =>
      by_cases hk : other = key
      · subst hk
        simp [h]
      · simp only [List.lookup_cons, beq_eq_false_iff_ne.mpr hk, ih]

/-- Steps of a name that the first scenarios do not bear go to those behind
them. -/
theorem place_append {name : String} {front : List (String × List Step)}
    (h : name ∉ front.map Prod.fst) (steps : List Step) (back : List (String × List Step)) :
    place name steps (front ++ back) = front ++ place name steps back := by
  induction front with
  | nil => rfl
  | cons scenario front ih =>
    obtain ⟨other, old⟩ := scenario
    rw [List.map_cons, List.mem_cons, not_or] at h
    rw [List.cons_append, place, if_neg (Ne.symm h.1), ih h.2]
    rfl

/-- **An inserted name has the steps it was inserted with**, and no other
name is touched. -/
@[simp] theorem get?_insert (map : StepMap) (name other : String) (steps : List Step) :
    (map.insert name steps).get? other = if other = name then some steps else map.get? other :=
  lookup_place name other steps map.scenarios

/-- **An exchange is an insertion** that gives back what the name had. -/
theorem exchange_eq (map : StepMap) (name : String) (steps : List Step) :
    map.exchange name steps = (map.get? name, map.insert name steps) := by
  unfold exchange
  simp only [displace_eq]
  rfl

/-- **An inserted name keeps its place or comes last.** -/
theorem names_insert (map : StepMap) (name : String) (steps : List Step) :
    (map.insert name steps).names
      = if name ∈ map.names then map.names else map.names ++ [name] :=
  names_place name steps map.scenarios

end StepMap

end Playscript
