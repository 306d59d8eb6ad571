import Playscript.Proofs.Page.Members

/-!
# Tests do what methods do

The page object and the test script are written by two loops that look up
accessors in the same plan. That they agree on every statement is a matter
of one replacement: what a method does with `this`, the test does with the
page object that it has made (`testOf`).

The replacement says nothing about the getters that statements read. That
each of them is there, and is the one for the selector name of the step, is
the other half (`IsDoneThrough`): the lookup by selector name succeeds for
every step of the map, so the name that would be made up for an unknown one
is never used. Pairing the getters with their selector names matters here,
as the getters of two selector names may differ in their number only.
-/

namespace Playscript.Page

open Script

/-- **A step is done through its getter**: the plan finds the accessor for
its selector name, that accessor is the getter of the class, and the
statement reads it, in the method and in the test. -/
structure IsDoneThrough (plan : Plan) (getters : List (String × Member)) (step : Step)
    (stmt : Stmt) : Prop where
  /-- The lookup succeeds. -/
  found : (plan.accessors.find? (·.selectorName = step.selectorName)).isSome = true
  /-- The statement reads the getter. -/
  reads : ∃ getter, (step.selectorName, getter) ∈ getters
    ∧ plan.accessor step.selectorName = getter.name ∧ Does getter.name step stmt

/-- A step with an accessor is done through the getter of it. -/
theorem isDoneThrough {plan : Plan} {step : Step} {stmt : Stmt}
    (h : ∃ accessor ∈ plan.accessors,
      plan.accessors.find? (·.selectorName = step.selectorName) = some accessor)
    (hdoes : Does (plan.accessor step.selectorName) step stmt) :
    IsDoneThrough plan
      ((plan.accessors.map (·.selectorName)).zip (plan.accessors.map getterOf)) step stmt := by
  obtain ⟨accessor, hm, hfind⟩ := h
  have hname : accessor.selectorName = step.selectorName := by
    simpa using List.find?_some hfind
  have hgetter : plan.accessor step.selectorName = (getterOf accessor).name :=
    Plan.accessor_eq hfind
  refine ⟨?_, getterOf accessor, ?_, hgetter, hgetter ▸ hdoes⟩
  · rw [hfind, Option.isSome_some]
  · rw [List.zip_map', ← hname]
    exact List.mem_map.mpr ⟨accessor, hm, rfl⟩

section

variable (nouns : NounFinder) (base : String) (map : StepMap)

/-- The methods do the steps of the scenarios through the getters. -/
theorem forall₂_isDoneThrough {methods : List Member}
    (h : List.Forall₂ (IsMethodOf (Plan.of nouns base map)) (Plan.of nouns base map).methods
      methods) :
    List.Forall₂ (fun scenario method =>
      List.Forall₂ (IsDoneThrough (Plan.of nouns base map)
        (((Plan.of nouns base map).accessors.map (·.selectorName)).zip
          ((Plan.of nouns base map).accessors.map getterOf))) scenario.2 method.body)
      map.scenarios methods := by
  have hplan := Plan.isSound_of nouns base map
  refine (forall₂_comp (Plan.forall₂_methods nouns base map) h).imp ?_
  rintro scenario member ⟨method, hm, hfor, hmethod⟩
  rw [← hfor.steps_eq]
  refine ((List.forall₂_and_left _ _).mpr ⟨hplan.covered method hm, hmethod.does⟩).imp ?_
  rintro step stmt ⟨hcovered, hdoes⟩
  exact isDoneThrough hcovered hdoes

/-- **The tests replay the methods.** The test script has one test per
scenario, in the order of the map and titled with the name of the method of
that scenario; the titles differ. It makes a page object, opens it and goes
through the statements of the method, one per step, on that page object.
Every statement reads the getter that the class has for the selector name of
its step. -/
theorem tests_of_specModule :
    ∃ page spec decl names getters methods,
      pageModule base (Plan.of nouns base map) = .ok page
      ∧ specModule base (Plan.of nouns base map) = .ok spec
      ∧ generate nouns base map = .ok ⟨page.write, spec.write⟩
      ∧ classes page = [decl]
      ∧ decl.members = getters ++ methods ++ [openOverride (defaultPathOf nouns base map)]
      ∧ IsFirstOccurrences (map.steps.map (·.selectorName)) names
      ∧ List.Forall₂ (IsGetter map.steps) names getters
      ∧ List.Forall₂ (IsScenarioMethod nouns (Plan.of nouns base map)) map.scenarios methods
      ∧ spec.statements = specFrame base decl.name
        ++ [suiteOf (specTitle base) (methods.map (testOf decl.name))]
      ∧ ((methods.map (testOf decl.name)).map (·.title)).Nodup
      ∧ List.Forall₂ (fun scenario method =>
        List.Forall₂ (IsDoneThrough (Plan.of nouns base map) (names.zip getters))
          scenario.2 method.body) map.scenarios methods := by
  have hplan := Plan.isSound_of nouns base map
  obtain ⟨methods, h⟩ := exists_methods hplan
  refine ⟨_, _, classOf _ methods, _, _, methods, pageModule_eq_ok hplan h base,
    specModule_eq_ok hplan h base, generate_eq_ok nouns base map h, rfl, rfl,
    isFirstOccurrences_selectorNames nouns base map, forall₂_getters nouns base map,
    forall₂_scenarioMethods nouns base map h, rfl, ?_, forall₂_isDoneThrough nouns base map h⟩
  -- titles are names of members, and those differ
  rw [List.map_map]
  have hnames := nodup_names_classOf hplan h
  rw [show (classOf (Plan.of nouns base map) methods).members = _ ++ methods ++ _ from rfl,
    List.map_append, List.map_append] at hnames
  exact (List.nodup_append.mp (List.nodup_append.mp hnames).1).2.1

end

end Playscript.Page
