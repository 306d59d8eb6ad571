import Playscript.Proofs.Page.Modules

/-!
# The members of a page object

What a reader of the generated class finds, said from the step map alone:
a getter for each selector name, a method for each scenario, and the
override of `open`, in this order and with different names. Nothing here
mentions how the names were come by, except that each is made from the
text it stands for.

A selector name may be used by many steps with different locators. The
getter belongs to the first of them, and what the others say about locators
is not used.
-/

namespace Playscript.Page

open Script

/-- **A member is the getter of a selector name**: it returns the chain of
the locators of the first step with that name. -/
structure IsGetter (steps : List Step) (selectorName : String) (member : Member) : Prop where
  /-- It is read like a property. -/
  kind_eq : member.kind = .getter ∧ member.isAsync = false ∧ member.params = []
  /-- It returns the chain. -/
  body_eq : ∃ step, steps.find? (·.selectorName = selectorName) = some step
    ∧ member.body = [.ret (some (locatorChain step.candidates))]
  /-- Its name is made from the selector name. -/
  isNumbered : Identifier.IsNumbered (Identifier.legalize selectorName).text member.name.text

/-- **A member is the method of a scenario**: it does the steps of the
scenario. -/
structure IsScenarioMethod (nouns : NounFinder) (plan : Plan) (scenario : String × List Step)
    (member : Member) : Prop where
  /-- It is called, and waited for. -/
  kind_eq : member.kind = .method ∧ member.isAsync = true ∧ member.params = []
  /-- It does the steps. -/
  body_eq : statements (.member .this ·) (.member .this ⟨"page"⟩) plan scenario.2
    = .ok member.body
  /-- Its name is made from the short name of the scenario. -/
  isNumbered : Identifier.IsNumbered
    (Identifier.legalize (Naming.shortName nouns scenario.1)).text member.name.text

/-- **The locators of a step, each one once**: the primary one in front, and
then the others in the order in which they first appear. -/
theorem isFirstOccurrences_candidates (step : Step) :
    IsFirstOccurrences (step.selector :: step.fallbacks) step.candidates :=
  isFirstOccurrences_eraseDups _

section

variable (nouns : NounFinder) (base : String) (map : StepMap)

/-- The selector names of the accessors are the first occurrences of those
in the map. -/
theorem isFirstOccurrences_selectorNames :
    IsFirstOccurrences (map.steps.map (·.selectorName))
      ((Plan.of nouns base map).accessors.map (·.selectorName)) := by
  have hnames : (Plan.of nouns base map).accessors.map (·.selectorName)
      = (map.steps.map (·.selectorName)).eraseDups.map id :=
    map_eq_map_of_forall₂ ((Plan.forall₂_accessors nouns base map).imp
      fun _ _ hfor => hfor.selectorName_eq)
  rw [hnames, List.map_id]
  exact isFirstOccurrences_eraseDups _

/-- The getters of the accessors are those of their selector names. -/
theorem forall₂_getters :
    List.Forall₂ (IsGetter map.steps) ((Plan.of nouns base map).accessors.map (·.selectorName))
      ((Plan.of nouns base map).accessors.map getterOf) := by
  rw [List.forall₂_map_left_iff, List.forall₂_map_right_iff, List.forall₂_same]
  intro accessor hm
  obtain ⟨name, -, hfor⟩ :=
    exists_mem_of_forall₂ (Plan.forall₂_accessors nouns base map).flip hm
  obtain ⟨rfl, ⟨step, hfind, hlocators⟩, hnumbered, -⟩ := hfor
  refine ⟨⟨rfl, rfl, rfl⟩, ⟨step, hfind, ?_⟩, hnumbered⟩
  rw [← hlocators]
  rfl

/-- The methods of the plan are those of the scenarios. -/
theorem forall₂_scenarioMethods {methods : List Member}
    (h : List.Forall₂ (IsMethodOf (Plan.of nouns base map)) (Plan.of nouns base map).methods
      methods) :
    List.Forall₂ (IsScenarioMethod nouns (Plan.of nouns base map)) map.scenarios methods := by
  refine (forall₂_comp (Plan.forall₂_methods nouns base map) h).imp ?_
  rintro scenario member ⟨method, -, hfor, hmethod⟩
  refine ⟨hmethod.kind_eq, ?_, ?_⟩
  · rw [← hfor.steps_eq]
    exact hmethod.statements_own
  · rw [hmethod.name_eq]
    exact hfor.isNumbered

/-- **The members of a page object**: one getter per selector name in the
order of first use, one method per scenario in the order of the map, and the
override of `open`. Their names are legal and differ, and none but `open` is
that of a member of the base class. -/
theorem members_of_pageModule :
    ∃ page decl names getters methods,
      pageModule base (Plan.of nouns base map) = .ok page
      ∧ (generate nouns base map).map (·.pageObject) = .ok page.write
      ∧ classes page = [decl]
      ∧ decl.members = getters ++ methods ++ [openOverride (defaultPathOf nouns base map)]
      ∧ IsFirstOccurrences (map.steps.map (·.selectorName)) names
      ∧ List.Forall₂ (IsGetter map.steps) names getters
      ∧ List.Forall₂ (IsScenarioMethod nouns (Plan.of nouns base map)) map.scenarios methods
      ∧ (decl.members.map (·.name.text)).Nodup
      ∧ (∀ member ∈ decl.members, member.name.isValid = true)
      ∧ (∀ member ∈ getters ++ methods, member.name.text ∉ baseMembers)
      ∧ ∀ step : Step, step.candidates.Nodup ∧ step.candidates.head? = some step.selector
        ∧ IsFirstOccurrences (step.selector :: step.fallbacks) step.candidates := by
  have hplan := Plan.isSound_of nouns base map
  obtain ⟨methods, h⟩ := exists_methods hplan
  refine ⟨_, classOf _ methods, _, _, methods, pageModule_eq_ok hplan h base, ?_, rfl, rfl,
    isFirstOccurrences_selectorNames nouns base map, forall₂_getters nouns base map,
    forall₂_scenarioMethods nouns base map h, nodup_names_classOf hplan h,
    fun _ hm => isValid_of_mem_classOf hplan h hm,
    fun _ hm => not_mem_baseMembers_of_mem hplan h hm, ?_⟩
  · rw [generate_eq_ok nouns base map h]
    rfl
  · intro step
    have hcandidates := isFirstOccurrences_candidates step
    exact ⟨hcandidates.nodup, hcandidates.head?_eq, hcandidates⟩

end

end Playscript.Page
