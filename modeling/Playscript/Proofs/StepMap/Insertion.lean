import Mathlib.Data.Finset.Card
import Playscript.Proofs.FirstOccurrences
import Playscript.Proofs.Json.Reading
import Playscript.Proofs.Traversal
import Playscript.StepMap.Reader

/-!
# What a step map holds

The order of a step map and what it holds follow different rules. A name has
the place at which it was first put in and the steps with which it was last
put in, so a map that new and old names were put into in turn is neither the
list of what was put in, with something left out, nor the reverse of such a
list.

`StepMap.Holds` says what the map of a list of scenarios is, for lists in
which names are repeated at will. It is said of what was put in and not of
how, so that the two ways in which maps come about are held to one rule:
scenarios are put in one by one, or a text is read. In a text scenarios are
the members of an object, and that an object may repeat a key is what makes
the second way worth a statement.
-/

namespace Playscript.StepMap

/-- **What a map holds** when scenarios were put into an empty one. -/
structure Holds (map : StepMap) (scenarios : List (String × List Step)) : Prop where
  /-- The names stand in the order in which they were first put in. -/
  names : IsFirstOccurrences (scenarios.map Prod.fst) map.names
  /-- A name has the steps it was last put in with. -/
  get? : ∀ name, map.get? name = scenarios.reverse.lookup name
  /-- Every name counts once. -/
  size : map.size = (scenarios.map Prod.fst).toFinset.card
  /-- All steps are those that the names have, in the order of the names. -/
  steps : map.steps = map.names.flatMap fun name => (map.get? name).getD []

/-! ## Maps that are well-formed -/

/-- **What stands beside a name is found under it**, as the name stands
nowhere else. -/
theorem get?_of_mem {map : StepMap} {name : String} {steps : List Step}
    (h : (name, steps) ∈ map.scenarios) : map.get? name = some steps := by
  obtain ⟨before, after, hsplit⟩ := List.append_of_mem h
  have hnodup := map.nodup
  rw [hsplit, List.map_append, List.map_cons] at hnodup
  refine List.lookup_eq_some_iff.mpr ⟨before, after, hsplit, fun other ho => ?_⟩
  have hne := (List.nodup_append.mp hnodup).2.2 _ (List.mem_map_of_mem ho) _ List.mem_cons_self
  exact bne_iff_ne.mpr hne.symm

/-- The steps of a map are those of its names. -/
theorem steps_eq_flatMap (map : StepMap) :
    map.steps = map.names.flatMap fun name => (map.get? name).getD [] := by
  unfold steps names
  rw [List.flatMap_map]
  refine List.flatMap_congr fun scenario hm => ?_
  rw [get?_of_mem hm, Option.getD_some]

/-- A map has as many scenarios as names. -/
theorem size_eq_card (map : StepMap) : map.size = map.names.toFinset.card :=
  (List.length_map _).symm.trans (List.toFinset_card_of_nodup map.nodup).symm

/-! ## Scenarios put in one after the other -/

/-- The map of a list with one more scenario. -/
theorem ofList_concat (scenarios : List (String × List Step)) (name : String)
    (steps : List Step) :
    ofList (scenarios ++ [(name, steps)]) = (ofList scenarios).insert name steps := by
  unfold ofList insertAll
  rw [List.foldl_append]
  rfl

theorem names_ofList (scenarios : List (String × List Step)) :
    (ofList scenarios).names = (scenarios.map Prod.fst).eraseDups := by
  induction scenarios using List.reverseRecOn with
  | nil => rfl
  | append_singleton scenarios scenario ih =>
    rw [ofList_concat, names_insert, ih, List.map_append, List.map_singleton, eraseDups_concat]
    simp only [List.mem_eraseDups, List.elem_eq_mem, decide_eq_true_eq]

theorem get?_ofList (scenarios : List (String × List Step)) (name : String) :
    (ofList scenarios).get? name = scenarios.reverse.lookup name := by
  induction scenarios using List.reverseRecOn with
  | nil => rfl
  | append_singleton scenarios scenario ih =>
    obtain ⟨last, steps⟩ := scenario
    rw [ofList_concat, get?_insert, ih, List.reverse_append, List.reverse_singleton,
      List.singleton_append, List.lookup_cons]
    by_cases h : name = last
    · rw [if_pos h, beq_iff_eq.mpr h]
    · rw [if_neg h, beq_eq_false_iff_ne.mpr h]

/-- **A map of scenarios holds them.** -/
theorem holds_ofList (scenarios : List (String × List Step)) :
    (ofList scenarios).Holds scenarios := by
  have hnames : IsFirstOccurrences (scenarios.map Prod.fst) (ofList scenarios).names := by
    rw [names_ofList]
    exact isFirstOccurrences_eraseDups _
  refine ⟨hnames, get?_ofList scenarios, ?_, steps_eq_flatMap _⟩
  rw [size_eq_card]
  congr 1
  ext name
  rw [List.mem_toFinset, List.mem_toFinset, hnames.mem_iff]

/-- A name that is put in again keeps its place. -/
example (first other last : List Step) :
    (ofList [("a", first), ("b", other), ("a", last)]).scenarios
      = [("a", last), ("b", other)] := rfl

/-! ## Scenarios read from a text -/

/-- **A member is read as a scenario**, its key as the name and its value as
the steps. -/
def IsReadAs (member : List Char × Json) (scenario : String × List Step) : Prop :=
  Json.decodeString? member.1 = some scenario.1 ∧ stepsOfJson? member.2 = some scenario.2

/-- **What is read as a step map**: the text of an object, member by
member. -/
theorem parse?_eq_some_iff {text : String} {map : StepMap} :
    parse? text = some map
      ↔ ∃ members scenarios, Json.tokenize? text.toList = some (Json.object members).tokens
        ∧ List.Forall₂ IsReadAs members scenarios ∧ map = ofList scenarios := by
  unfold parse? ofJson?
  simp only [Option.bind_eq_bind, Option.bind_eq_some_iff, Option.map_eq_some_iff,
    Json.asTable?_eq_some_iff, Json.parse?_eq_some_iff]
  constructor
  · rintro ⟨_, htokens, scenarios, ⟨members, rfl, hread⟩, rfl⟩
    exact ⟨members, scenarios, htokens, hread, rfl⟩
  · rintro ⟨members, scenarios, htokens, hread, rfl⟩
    exact ⟨_, htokens, scenarios, ⟨members, rfl, hread⟩, rfl⟩

/-- **A step map is ordered by first insertion and holds what was inserted
last.** Scenarios that are put in one after the other, names repeated at
will, make a map that holds them; what is given back for each is what the
name had until then; and a text is read as the map of the members of its
object, put in as they stand in the text. -/
theorem isInsertionOrdered :
    (∀ scenarios, (ofList scenarios).Holds scenarios)
      ∧ (∀ scenarios name steps, (ofList scenarios).exchange name steps
          = ((ofList scenarios).get? name, ofList (scenarios ++ [(name, steps)])))
      ∧ ∀ text map, parse? text = some map
        ↔ ∃ members scenarios, Json.tokenize? text.toList = some (Json.object members).tokens
          ∧ List.Forall₂ IsReadAs members scenarios
          ∧ map = ofList scenarios ∧ map.Holds scenarios := by
  refine ⟨holds_ofList, fun scenarios name steps => ?_, fun text map => ?_⟩
  · rw [exchange_eq, ofList_concat]
  · rw [parse?_eq_some_iff]
    constructor
    · rintro ⟨members, scenarios, htokens, hread, rfl⟩
      exact ⟨members, scenarios, htokens, hread, rfl, holds_ofList scenarios⟩
    · rintro ⟨members, scenarios, htokens, hread, hmap, -⟩
      exact ⟨members, scenarios, htokens, hread, hmap⟩

end Playscript.StepMap
