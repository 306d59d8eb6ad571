import Playscript.Proofs.Page.Replay
import Playscript.Proofs.StepMap.Normal

/-!
# Understood steps are done through their own locators

A page object has one getter per selector name, and its locators are those
of the first step with that name. What a later step says about locators is
not used. In a map that was edited by hand this may be another thing than
what the getter tries, and then the step is done on the wrong element.

In a map that comes from a feature it cannot be. The locators of a step are
looked up in the selector tables under its selector name and nothing else is
asked of the sentence (`Classifier.candidates_congr`), so all steps with one
selector name have the same locators, and those of the first are those of
each. Together with the lookup of getters by selector names this makes every
statement read a getter that tries exactly the locators of its step.
-/

namespace Playscript

namespace Classifier

/-- **The selector name decides about the locators** of an understood
step. -/
theorem candidates_congr (classifier : Classifier) {sentence other : String}
    (h : (classifier.classify sentence).selectorName
      = (classifier.classify other).selectorName) :
    (classifier.classify sentence).candidates = (classifier.classify other).candidates := by
  have hname : classifier.selectorName sentence = classifier.selectorName other := h
  unfold Step.candidates classify
  dsimp only
  rw [hname]

end Classifier

/-- Every step of the map of a feature is an understood sentence. -/
theorem StepMap.exists_eq_classify {classifier : Classifier} {feature : Feature} {step : Step}
    (h : step ∈ (feature.classify classifier).steps) :
    ∃ sentence, step = classifier.classify sentence := by
  obtain ⟨scenario, hscenario, hstep⟩ := List.mem_flatMap.mp h
  obtain ⟨source, -, rfl⟩ := List.mem_map.mp (mem_of_mem_ofList hscenario)
  obtain ⟨sentence, -, rfl⟩ := List.mem_map.mp hstep
  exact ⟨sentence, rfl⟩

namespace Page

open Script

/-- **A step is done on its own element**: the statement reads a getter of
the class, and what that getter returns is the chain of the locators of this
very step. -/
structure IsDoneOnOwn (decl : ClassDecl) (step : Step) (stmt : Stmt) : Prop where
  /-- The getter is there and returns the chain, and the statement reads
  it. -/
  reads : ∃ getter ∈ decl.members,
    (getter.kind = .getter ∧ getter.isAsync = false ∧ getter.params = [])
      ∧ getter.body = [.ret (some (locatorChain step.candidates))]
      ∧ Does getter.name step stmt

/-- The getter for the selector name of an understood step has the locators
of the step. -/
theorem body_of_isGetter {classifier : Classifier} {feature : Feature} {step : Step}
    {getter : Member} (hstep : step ∈ (feature.classify classifier).steps)
    (h : IsGetter (feature.classify classifier).steps step.selectorName getter) :
    getter.body = [.ret (some (locatorChain step.candidates))] := by
  obtain ⟨first, hfirst, hbody⟩ := h.body_eq
  have hname : first.selectorName = step.selectorName := by simpa using List.find?_some hfirst
  obtain ⟨sentence, rfl⟩ := StepMap.exists_eq_classify hstep
  obtain ⟨other, rfl⟩ := StepMap.exists_eq_classify (List.mem_of_find?_eq_some hfirst)
  rw [hbody, classifier.candidates_congr hname]

/-- What is done through the getter of its selector name is done on its own
element. -/
theorem isDoneOnOwn {classifier : Classifier} {feature : Feature} {plan : Plan} {decl : ClassDecl}
    {names : List String} {getters : List Member}
    (hgetters : List.Forall₂ (IsGetter (feature.classify classifier).steps) names getters)
    (hdecl : ∀ getter ∈ getters, getter ∈ decl.members) {step : Step} {stmt : Stmt}
    (hstep : step ∈ (feature.classify classifier).steps)
    (h : IsDoneThrough plan (names.zip getters) step stmt) : IsDoneOnOwn decl step stmt := by
  obtain ⟨getter, hmem, -, hdoes⟩ := h.reads
  have hgetter := (List.forall₂_iff_zip.mp hgetters).2 hmem
  exact ⟨getter, hdecl getter (List.of_mem_zip hmem).2, hgetter.kind_eq,
    body_of_isGetter hstep hgetter, hdoes⟩

/-- **Every step of a feature is done on its own element.** The class of the
page object has one method per scenario of the map, and each statement of it
reads a getter that returns the chain of the locators of its own step, also
where an earlier step has the same selector name. -/
theorem steps_done_on_own (classifier : Classifier) (nouns : NounFinder) (base : String)
    (feature : Feature) :
    ∃ page decl methods,
      pageModule base (Plan.of nouns base (feature.classify classifier)) = .ok page
      ∧ (generate nouns base (feature.classify classifier)).map (·.pageObject) = .ok page.write
      ∧ classes page = [decl]
      ∧ (decl.members.map (·.name.text)).Nodup
      ∧ (∀ method ∈ methods, method ∈ decl.members)
      ∧ List.Forall₂ (IsScenarioMethod nouns (Plan.of nouns base (feature.classify classifier)))
        (feature.classify classifier).scenarios methods
      ∧ List.Forall₂ (fun scenario method =>
          List.Forall₂ (IsDoneOnOwn decl) scenario.2 method.body)
        (feature.classify classifier).scenarios methods := by
  have hplan := Plan.isSound_of nouns base (feature.classify classifier)
  obtain ⟨methods, h⟩ := exists_methods hplan
  refine ⟨_, classOf _ methods, methods, pageModule_eq_ok hplan h base, ?_, rfl,
    nodup_names_classOf hplan h, ?_, forall₂_scenarioMethods nouns base _ h, ?_⟩
  · rw [generate_eq_ok nouns base _ h]
    rfl
  · exact fun method hm => List.mem_append_left _ (List.mem_append_right _ hm)
  -- that a step is an understood one is known of the steps of the map only
  have hsteps : ∀ scenario ∈ (feature.classify classifier).scenarios, ∀ step ∈ scenario.2,
      step ∈ (feature.classify classifier).steps :=
    fun scenario hs step hm => List.mem_flatMap.mpr ⟨scenario, hs, hm⟩
  refine ((List.forall₂_and_left _ _).mpr
    ⟨hsteps, forall₂_isDoneThrough nouns base _ h⟩).imp ?_
  rintro scenario method ⟨hscenario, hthrough⟩
  refine ((List.forall₂_and_left _ _).mpr ⟨hscenario, hthrough⟩).imp ?_
  rintro step stmt ⟨hstep, hdone⟩
  exact isDoneOnOwn (forall₂_getters nouns base _)
    (fun getter hm => List.mem_append_left _ (List.mem_append_left _ hm)) hstep hdone

end Page

end Playscript
