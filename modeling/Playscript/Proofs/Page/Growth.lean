import Playscript.Proofs.Page.Members

/-!
# A page object keeps its accessors when its map grows

Tests refer to accessors by name, so a name must not pass to another element
because a scenario was added to the map. It might be thought that it does.
Names are numbered in the order in which they are given out, methods and
accessors draw on one supply, and a new scenario may bring a selector name
that is mended to an identifier which an older one has.

The order in which names are given out rules it out. All accessors come before
all methods, and the accessors come in the order in which the steps first use
them; the steps of an added scenario are behind all others. What has a name
has been given it before anything is seen of the addition
(`firstSteps_prefix`, `Identifier.freshAll_append`), and its locators are
those of a step that is there before and after. Methods have no such
guarantee: a selector name of an added scenario takes its identifier before
any method does.
-/

namespace Playscript

namespace StepMap

/-- **Scenarios with new names come behind those of the map**, as they stand
in a map of their own. -/
theorem scenarios_insertAll (map : StepMap) {added : List (String × List Step)}
    (h : ∀ scenario ∈ added, scenario.1 ∉ map.names) :
    (map.insertAll added).scenarios = map.scenarios ++ (ofList added).scenarios := by
  -- what has been added so far is a map of its own behind the first one
  have hall : ∀ whole part : StepMap, whole.scenarios = map.scenarios ++ part.scenarios →
      (whole.insertAll added).scenarios = map.scenarios ++ (part.insertAll added).scenarios := by
    induction added with
    | nil => exact fun _ _ hwhole => hwhole
    | cons scenario added ih =>
      obtain ⟨hnew, hadded⟩ := List.forall_mem_cons.mp h
      intro whole part hwhole
      refine ih hadded (whole.insert scenario.1 scenario.2)
        (part.insert scenario.1 scenario.2) ?_
      show place _ _ whole.scenarios = _
      rw [hwhole, place_append hnew]
      rfl
  exact hall map empty (List.append_nil _).symm

end StepMap

namespace Page

open Script

/-! ## Accessors -/

/-- The first steps of a list are first steps of what it begins. -/
theorem firstSteps_prefix (seen : List String) (steps others : List Step) :
    firstSteps seen steps <+: firstSteps seen (steps ++ others) := by
  induction steps generalizing seen with
  | nil => exact List.nil_prefix
  | cons step rest ih =>
    rw [List.cons_append, firstSteps, firstSteps]
    split
    · exact ih seen
    · exact (List.prefix_cons_inj step).mpr (ih _)

/-- Accessors do not depend on the steps behind theirs. -/
theorem accessorsFor_prefix (used : List String) {steps others : List Step}
    (h : steps <+: others) : (accessorsFor used steps).1 <+: (accessorsFor used others).1 := by
  obtain ⟨rest, rfl⟩ := h
  have hlength : steps.length
      = (Identifier.freshAll used (steps.map (·.selectorName))).1.length := by
    rw [Identifier.length_freshAll, List.length_map]
  unfold accessorsFor
  rw [List.map_append, Identifier.freshAll_append]
  dsimp only
  rw [List.zip_append hlength, List.map_append]
  exact List.prefix_append _ _

/-- **The accessors of a plan stay as they are when scenarios come behind
those of its map.** -/
theorem Plan.accessors_prefix (nouns : NounFinder) (base : String) {map larger : StepMap}
    (h : map.scenarios <+: larger.scenarios) :
    (Plan.of nouns base map).accessors <+: (Plan.of nouns base larger).accessors := by
  obtain ⟨behind, hlarger⟩ := h
  have hsteps : larger.steps = map.steps ++ behind.flatMap Prod.snd := by
    unfold StepMap.steps
    rw [← hlarger, List.flatMap_append]
  refine accessorsFor_prefix baseMembers ?_
  rw [hsteps]
  exact firstSteps_prefix [] _ _

/-! ## Getters -/

/-- **The getters of a class**, in the order in which they are declared. -/
def getters (decl : ClassDecl) : List Member :=
  decl.members.filter (·.kind = .getter)

/-- The getters of a page object are those of the accessors that were
planned. -/
theorem getters_classOf {plan : Plan} {methods : List Member}
    (h : List.Forall₂ (IsMethodOf plan) plan.methods methods) :
    getters (classOf plan methods) = plan.accessors.map getterOf := by
  have hgetters : (plan.accessors.map getterOf).filter (·.kind = .getter)
      = plan.accessors.map getterOf :=
    List.filter_eq_self.mpr fun member hm => by
      obtain ⟨accessor, -, rfl⟩ := List.mem_map.mp hm
      rfl
  have hmethods : methods.filter (·.kind = .getter) = [] :=
    List.filter_eq_nil_iff.mpr fun member hm => by
      obtain ⟨method, -, hof⟩ := exists_mem_of_forall₂ h.flip hm
      rw [hof.kind_eq.1]
      decide
  unfold getters classOf
  rw [List.filter_append, List.filter_append, hgetters, hmethods, List.append_nil]
  exact List.append_nil _

/-- **Scenarios that are added rename no accessor.** Scenarios with new names
come behind those of the map, and the getters of the page object of the
larger map begin with those of the page object of the map: they have the same
names and return the chains of the same locators, in the same order. -/
theorem getters_of_insertAll (nouns : NounFinder) (base : String) (map : StepMap)
    {added : List (String × List Step)} (h : ∀ scenario ∈ added, scenario.1 ∉ map.names) :
    (map.insertAll added).scenarios = map.scenarios ++ (StepMap.ofList added).scenarios
      ∧ ∃ page larger decl largerDecl,
        pageModule base (Plan.of nouns base map) = .ok page
        ∧ (generate nouns base map).map (·.pageObject) = .ok page.write
        ∧ classes page = [decl]
        ∧ pageModule base (Plan.of nouns base (map.insertAll added)) = .ok larger
        ∧ (generate nouns base (map.insertAll added)).map (·.pageObject) = .ok larger.write
        ∧ classes larger = [largerDecl]
        ∧ getters decl = (Plan.of nouns base map).accessors.map getterOf
        ∧ getters decl <+: getters largerDecl := by
  have hscenarios := map.scenarios_insertAll h
  have hplan := Plan.isSound_of nouns base map
  have hlarger := Plan.isSound_of nouns base (map.insertAll added)
  obtain ⟨methods, hmethods⟩ := exists_methods hplan
  obtain ⟨largerMethods, hlargerMethods⟩ := exists_methods hlarger
  refine ⟨hscenarios, _, _, _, _, pageModule_eq_ok hplan hmethods base, ?_, rfl,
    pageModule_eq_ok hlarger hlargerMethods base, ?_, rfl, getters_classOf hmethods, ?_⟩
  · rw [generate_eq_ok nouns base map hmethods]
    rfl
  · rw [generate_eq_ok nouns base _ hlargerMethods]
    rfl
  · rw [getters_classOf hmethods, getters_classOf hlargerMethods]
    refine (Plan.accessors_prefix nouns base ?_).map getterOf
    rw [hscenarios]
    exact List.prefix_append _ _

/-- An added scenario whose selector name is that to which an older one is
mended, and which the method is named after. -/
theorem getters_of_insertAll_lookalikes :
    let step : String → Step := fun name => ⟨.click, name, "#" ++ name, [], none⟩
    let map : StepMap := .ofList [("login", [step "log-in"])]
    let added : List (String × List Step) := [("in again", [step "login", step "log-in"])]
    (∀ scenario ∈ added, scenario.1 ∉ map.names)
      ∧ (Plan.of Lexicon.nouns "shop" map).accessors.map (·.name.text) = ["login"]
      ∧ (Plan.of Lexicon.nouns "shop" (map.insertAll added)).accessors.map (·.name.text)
        = ["login", "login2"]
      ∧ (map.insertAll added).scenarios = map.scenarios ++ (StepMap.ofList added).scenarios
      ∧ ∃ page larger decl largerDecl,
        pageModule "shop" (Plan.of Lexicon.nouns "shop" map) = .ok page
        ∧ classes page = [decl]
        ∧ pageModule "shop" (Plan.of Lexicon.nouns "shop" (map.insertAll added)) = .ok larger
        ∧ classes larger = [largerDecl]
        ∧ getters decl <+: getters largerDecl := by
  intro step map added
  have hnew : ∀ scenario ∈ added, scenario.1 ∉ map.names := by decide
  obtain ⟨hscenarios, page, larger, decl, largerDecl, hpage, -, hdecl, hlarger, -, hlargerDecl,
    -, hprefix⟩ := getters_of_insertAll Lexicon.nouns "shop" map hnew
  exact ⟨hnew, by decide +kernel, by decide +kernel, hscenarios, page, larger, decl, largerDecl,
    hpage, hdecl, hlarger, hlargerDecl, hprefix⟩

end Page

end Playscript
