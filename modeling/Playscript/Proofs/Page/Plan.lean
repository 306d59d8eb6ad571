import Mathlib.Data.List.Nodup
import Playscript.Page.Plan
import Playscript.Proofs.FirstOccurrences
import Playscript.Proofs.Script.Fresh
import Playscript.Proofs.Traversal

/-!
# What a plan guarantees

Two modules are written from one plan, and neither looks at the step map
again. So all that can go wrong with names is settled here.

The names of accessors and methods come from one supply, and that supply is
threaded through two rounds; what makes them differ from each other and
from the members of the base class is a single list without repetitions,
the names in use at the end (`nodup_memberNames`). What an accessor or a
method stands for is said separately, one relation each
(`Accessor.IsFor`, `Method.IsFor`), as nothing in it depends on the other
accessors and methods.

The lookup of an accessor goes by the selector name and not by the
identifier made of it. This is what makes it safe: distinct selector names
may be mended to one identifier, and then the second one is numbered and a
lookup by identifiers would find the wrong one.
-/

namespace Playscript.Page

open Script (Identifier)

/-! ## The first step for a selector name -/

/-- The first steps bear the selector names not seen before, each once and
in order. -/
theorem selectorNames_firstSteps (seen : List String) (steps : List Step) :
    (firstSteps seen steps).map (·.selectorName)
      = ((steps.map (·.selectorName)).filter (!seen.contains ·)).eraseDups := by
  induction steps generalizing seen with
  | nil => rfl
  | cons step rest ih =>
    rw [firstSteps, List.map_cons]
    by_cases hs : seen.contains step.selectorName = true
    · rw [if_pos hs, ih, List.filter_cons, hs]
      rfl
    · rw [if_neg hs, List.filter_cons, Bool.eq_false_iff.mpr hs]
      show step.selectorName :: (firstSteps _ rest).map (·.selectorName) = List.eraseDups (_ :: _)
      rw [List.eraseDups_cons, ih, List.filter_filter]
      -- not seen and not this name is not seen with this name among them
      congr 2
      refine List.filter_congr fun name _ => ?_
      rw [List.contains_cons, Bool.not_or]

/-- **A first step is the first of the steps that bear its selector name**,
which had not been seen. -/
theorem find?_of_mem_firstSteps {seen : List String} {steps : List Step} {step : Step}
    (h : step ∈ firstSteps seen steps) :
    step.selectorName ∉ seen
      ∧ steps.find? (·.selectorName = step.selectorName) = some step := by
  induction steps generalizing seen with
  | nil => cases h
  | cons first rest ih =>
    rw [firstSteps] at h
    by_cases hs : seen.contains first.selectorName = true
    · rw [if_pos hs] at h
      obtain ⟨hseen, hfind⟩ := ih h
      have hne : first.selectorName ≠ step.selectorName := by
        intro he
        rw [he] at hs
        exact hseen (List.contains_iff_mem.mp hs)
      refine ⟨hseen, ?_⟩
      rw [List.find?_cons_of_neg (by simpa using hne), hfind]
    · rw [if_neg hs] at h
      rcases List.mem_cons.mp h with rfl | h
      · refine ⟨fun hm => hs (List.contains_iff_mem.mpr hm), ?_⟩
        rw [List.find?_cons_of_pos (by simp)]
      · obtain ⟨hseen, hfind⟩ := ih h
        obtain ⟨hne, hseen⟩ := not_or.mp (fun hm => hseen (List.mem_cons.mpr hm))
        refine ⟨hseen, ?_⟩
        rw [List.find?_cons_of_neg (by simpa using Ne.symm hne), hfind]

/-! ## What accessors and methods stand for -/

/-- **An accessor is the one for a selector name**: it tries the locators of
the first step with that name, and is called by the name, mended and
perhaps numbered. -/
structure Accessor.IsFor (steps : List Step) (selectorName : String) (accessor : Accessor) :
    Prop where
  /-- It is found by the selector name. -/
  selectorName_eq : accessor.selectorName = selectorName
  /-- Its locators are those of the first step. -/
  locators_eq : ∃ step, steps.find? (·.selectorName = selectorName) = some step
    ∧ accessor.locators = step.candidates
  /-- Its identifier is made from the selector name. -/
  isNumbered : Identifier.IsNumbered (Identifier.legalize selectorName).text accessor.name.text
  /-- Its identifier is legal. -/
  isValid : accessor.name.isValid = true

/-- **A method is the one for a scenario**: it does the steps of the
scenario, and is called by the short name of it, mended and perhaps
numbered. -/
structure Method.IsFor (nouns : NounFinder) (scenario : String × List Step) (method : Method) :
    Prop where
  /-- Its steps are those of the scenario. -/
  steps_eq : method.steps = scenario.2
  /-- Its identifier is made from the name of the scenario. -/
  isNumbered : Identifier.IsNumbered
    (Identifier.legalize (Naming.shortName nouns scenario.1)).text method.name.text
  /-- Its identifier is legal. -/
  isValid : method.name.isValid = true

/-- The accessors for steps are named by the supply. -/
theorem names_accessorsFor (used : List String) (steps : List Step) :
    (accessorsFor used steps).1.map (·.name)
      = (Identifier.freshAll used (steps.map (·.selectorName))).1 := by
  unfold accessorsFor
  rw [List.map_map]
  refine List.map_snd_zip (Nat.le_of_eq ?_)
  rw [Identifier.length_freshAll, List.length_map]

/-- The methods for scenarios are named by the supply. -/
theorem names_methodsFor (nouns : NounFinder) (used : List String)
    (scenarios : List (String × List Step)) :
    (methodsFor nouns used scenarios).map (·.name)
      = (Identifier.freshAll used (scenarios.map fun s => Naming.shortName nouns s.1)).1 := by
  unfold methodsFor
  rw [List.map_map]
  refine List.map_snd_zip (Nat.le_of_eq ?_)
  rw [Identifier.length_freshAll, List.length_map]

namespace Plan

variable (nouns : NounFinder) (base : String) (map : StepMap)

/-- **One accessor per selector name**, in the order in which the steps
first use them. -/
theorem forall₂_accessors :
    List.Forall₂ (Accessor.IsFor map.steps) (map.steps.map (·.selectorName)).eraseDups
      (Plan.of nouns base map).accessors := by
  have hnames : (firstSteps [] map.steps).map (·.selectorName)
      = (map.steps.map (·.selectorName)).eraseDups :=
    (selectorNames_firstSteps [] map.steps).trans
      (congrArg List.eraseDups (List.filter_eq_self.mpr fun _ _ => rfl))
  rw [← hnames, List.forall₂_map_left_iff]
  have hfresh := Identifier.forall₂_freshAll baseMembers
    ((firstSteps [] map.steps).map (·.selectorName))
  rw [List.forall₂_map_left_iff] at hfresh
  -- that a step is the first with its name is known of members only
  have hfind : ∀ step ∈ firstSteps [] map.steps,
      map.steps.find? (·.selectorName = step.selectorName) = some step :=
    fun _ hm => (find?_of_mem_firstSteps hm).2
  have hfirst := (List.forall₂_and_left _ _).mpr ⟨hfind, hfresh⟩
  refine forall₂_map_zip (fun step name h => ?_) hfirst
  exact ⟨rfl, ⟨step, h.1, rfl⟩, h.2.1, h.2.2⟩

/-- **One method per scenario**, in the order of the map. -/
theorem forall₂_methods :
    List.Forall₂ (Method.IsFor nouns) map.scenarios (Plan.of nouns base map).methods := by
  have hfresh := Identifier.forall₂_freshAll
    (accessorsFor baseMembers (firstSteps [] map.steps)).2
    (map.scenarios.map fun s => Naming.shortName nouns s.1)
  rw [List.forall₂_map_left_iff] at hfresh
  exact forall₂_map_zip (fun scenario name h => ⟨rfl, h.1, h.2⟩) hfresh

/-! ## Names that differ -/

/-- The names that a plan gives to members of its class. -/
def memberNames (plan : Plan) : List String :=
  plan.accessors.map (·.name.text) ++ plan.methods.map (·.name.text)

/-- The names in use after the accessors: theirs, last first, and those of
the base class. -/
theorem used_accessorsFor (steps : List Step) :
    (accessorsFor baseMembers steps).2
      = ((accessorsFor baseMembers steps).1.map (·.name.text)).reverse ++ baseMembers := by
  have hused := Identifier.freshAll_snd baseMembers (steps.map (·.selectorName))
  rw [← names_accessorsFor, List.map_map] at hused
  exact hused

/-- **No two of the given names are equal, and none is the name of a member
of the base class.** -/
theorem nodup_memberNames : ((Plan.of nouns base map).memberNames ++ baseMembers).Nodup := by
  have hused : ((accessorsFor baseMembers (firstSteps [] map.steps)).2).Nodup :=
    Identifier.nodup_freshAll (by decide) _
  have hall := Identifier.nodup_freshAll hused
    (map.scenarios.map fun s => Naming.shortName nouns s.1)
  rw [Identifier.freshAll_snd, ← names_methodsFor, List.map_map] at hall
  -- the list of the supply has the same names, those given last in front
  refine (List.Perm.nodup_iff ?_).mp hall
  refine ((List.reverse_perm _).append (List.Perm.of_eq (used_accessorsFor _))).trans ?_
  refine (List.Perm.append_left _ ((List.reverse_perm _).append_right _)).trans ?_
  rw [memberNames, List.append_assoc]
  exact List.perm_append_comm_assoc _ _ _

/-! ## Lookup -/

/-- **Every step of the map has an accessor**, which is found by the
selector name of the step. -/
theorem exists_find?_accessors {step : Step} (h : step ∈ map.steps) :
    ∃ accessor ∈ (Plan.of nouns base map).accessors,
      (Plan.of nouns base map).accessors.find? (·.selectorName = step.selectorName)
        = some accessor := by
  have hname : step.selectorName ∈ (map.steps.map (·.selectorName)).eraseDups :=
    List.mem_eraseDups.mpr (List.mem_map_of_mem h)
  obtain ⟨first, hm, hfor⟩ := exists_mem_of_forall₂ (forall₂_accessors nouns base map) hname
  cases hf : (Plan.of nouns base map).accessors.find? (·.selectorName = step.selectorName) with
  | none =>
    have hne := List.find?_eq_none.mp hf first hm
    exact absurd hfor.selectorName_eq (by simpa using hne)
  | some accessor => exact ⟨accessor, List.mem_of_find?_eq_some hf, rfl⟩

/-- An accessor that is found is the one whose identifier is used. -/
theorem accessor_eq {plan : Plan} {selectorName : String} {accessor : Accessor}
    (h : plan.accessors.find? (·.selectorName = selectorName) = some accessor) :
    plan.accessor selectorName = accessor.name := by
  rw [Plan.accessor, h]

/-- **Steps that share an accessor have one selector name.** -/
theorem selectorName_eq_of_accessor_eq {nouns : NounFinder} {base : String} {map : StepMap}
    {step other : Step} (hstep : step ∈ map.steps) (hother : other ∈ map.steps)
    (h : (Plan.of nouns base map).accessor step.selectorName
      = (Plan.of nouns base map).accessor other.selectorName) :
    step.selectorName = other.selectorName := by
  obtain ⟨first, hfirst, hfind⟩ := exists_find?_accessors nouns base map hstep
  obtain ⟨second, hsecond, hfind'⟩ := exists_find?_accessors nouns base map hother
  rw [accessor_eq hfind, accessor_eq hfind'] at h
  -- identifiers of accessors differ, so the two accessors are one
  have hnodup : ((Plan.of nouns base map).accessors.map (·.name.text)).Nodup :=
    (List.nodup_append.mp (List.nodup_append.mp (nodup_memberNames nouns base map)).1).1
  have hsame : first = second :=
    List.inj_on_of_nodup_map hnodup hfirst hsecond (congrArg (·.text) h)
  have hname : first.selectorName = step.selectorName := by simpa using List.find?_some hfind
  have hname' : second.selectorName = other.selectorName := by simpa using List.find?_some hfind'
  rw [← hname, ← hname', hsame]

/-! ## All of it together -/

/-- The class is named for the feature. -/
theorem className_of : (Plan.of nouns base map).className = classNameOf base := by
  -- not by `rfl`, which would look into the mending of names
  dsimp only [Plan.of]

/-- The name of the class is legal. -/
theorem isValid_classNameOf : (Identifier.mk (classNameOf base)).isValid = true := by
  have hvalid := Identifier.isValid_legalize (Naming.capitalize base ++ "Page")
  unfold classNameOf
  generalize Identifier.legalize _ = name at hvalid ⊢
  exact hvalid

/-- **A plan whose names are safe to write down**: they are legal, and no
two members of its class come to share one, inherited members included; and
that names no element without giving it an accessor. -/
structure IsSound (plan : Plan) : Prop where
  /-- The name of the class is legal. -/
  className : (Identifier.mk plan.className).isValid = true
  /-- The names of accessors are legal. -/
  accessors : ∀ accessor ∈ plan.accessors, accessor.name.isValid = true
  /-- The names of methods are legal. -/
  methods : ∀ method ∈ plan.methods, method.name.isValid = true
  /-- Names differ. -/
  nodup : (plan.memberNames ++ baseMembers).Nodup
  /-- Every step that is done has an accessor. -/
  covered : ∀ method ∈ plan.methods, ∀ step ∈ method.steps, ∃ accessor ∈ plan.accessors,
    plan.accessors.find? (·.selectorName = step.selectorName) = some accessor

/-- **The plan of a map is sound**, whatever the map. -/
theorem isSound_of : (Plan.of nouns base map).IsSound := by
  refine ⟨?_, ?_, ?_, nodup_memberNames nouns base map, ?_⟩
  · rw [className_of]
    exact isValid_classNameOf base
  · intro accessor hm
    obtain ⟨name, -, hfor⟩ := exists_mem_of_forall₂ (forall₂_accessors nouns base map).flip hm
    exact hfor.isValid
  · intro method hm
    obtain ⟨scenario, -, hfor⟩ := exists_mem_of_forall₂ (forall₂_methods nouns base map).flip hm
    exact hfor.isValid
  · intro method hm step hs
    obtain ⟨scenario, hscenario, hfor⟩ :=
      exists_mem_of_forall₂ (forall₂_methods nouns base map).flip hm
    rw [hfor.steps_eq] at hs
    exact exists_find?_accessors nouns base map
      (List.mem_flatMap.mpr ⟨scenario, hscenario, hs⟩)

/-- **The getter for a selector name is called by a legal name**, also if no
accessor is found for it and the name is mended. -/
theorem IsSound.isValid_accessor {plan : Plan} (h : plan.IsSound) (selectorName : String) :
    (plan.accessor selectorName).isValid = true := by
  rw [Plan.accessor]
  split
  · next accessor hfind => exact h.accessors accessor (List.mem_of_find?_eq_some hfind)
  · exact Identifier.isValid_legalize selectorName

/-- The names that a sound plan gives are not those of the base class. -/
theorem IsSound.not_mem_baseMembers {plan : Plan} (h : plan.IsSound) {name : String}
    (hm : name ∈ plan.memberNames) : name ∉ baseMembers := by
  intro hbase
  exact (List.nodup_append.mp h.nodup).2.2 name hm name hbase rfl

end Plan

end Playscript.Page
