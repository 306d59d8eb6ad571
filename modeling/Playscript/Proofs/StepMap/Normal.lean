import Playscript.Feature.Basic
import Playscript.Proofs.Traversal
import Playscript.StepMap.Reader

/-!
# Normal step maps

The written form of a step has no room for two distinctions that the type
makes. An argument that is the empty text is written like none at all; and
an action that is kept as unknown under a name somebody does know is
written like the action of that name. A map that makes neither distinction
is *normal*, and only of normal maps can it be asked that writing them
loses nothing.

It costs nothing to ask. There are two ways to come by a map,
understanding a feature and reading a text, and both give normal maps only
(`isNormal_classify`, `isNormal_of_parse?`), the second one whatever the
text holds: the old spelling of an action and an empty note are resolved
while reading.
-/

namespace Playscript

namespace Action

/-- **An action that its own name is read as.** -/
def IsNormal (action : Action) : Prop := ofName action.name = action
deriving Decidable

/-- Whatever a name is read as, its name is read as the same. -/
theorem isNormal_ofName (name : String) : (ofName name).IsNormal := by
  unfold IsNormal
  generalize ha : ofName name = action
  unfold ofName at ha
  split at ha
  · subst ha
    exact ofName_name_of_mem_known (by decide)
  · next hs =>
    cases hf : known.find? (·.name = name) with
    | some found =>
      rw [hf] at ha
      exact ofName_name_of_mem_known (ha ▸ List.mem_of_find?_eq_some hf)
    | none =>
      -- a name nobody knows is kept, and is looked up in vain again
      rw [hf] at ha
      subst ha
      show ofName name = unsupported name
      rw [ofName, if_neg hs, hf]
      rfl

end Action

namespace Rule

/-- A verdict is that of one of the rules. -/
theorem exists_of_first?_eq_some {α : Type} {edge : Edge} {rules : List (Rule α)}
    {text : List Char} {verdict : α} (h : first? edge rules text = some verdict) :
    ∃ rule ∈ rules, rule.verdict = verdict := by
  obtain ⟨rule, hr, hv⟩ := Option.map_eq_some_iff.mp h
  exact ⟨rule, List.mem_of_find?_eq_some hr, hv⟩

end Rule

namespace Classifier

/-- A sentence has an action with a name of its own. -/
theorem action_mem_known (sentence : String) : action sentence ∈ Action.known := by
  unfold action
  cases h : Rule.first? Edge.ofWord actionRules (Text.lowercase sentence).toList with
  | none => decide
  | some verdict =>
    obtain ⟨rule, hr, rfl⟩ := Rule.exists_of_first?_eq_some h
    have hall : ∀ rule ∈ actionRules, rule.verdict ∈ Action.known := by decide
    exact hall rule hr

end Classifier

namespace Step

/-- **A step that is written without loss.** -/
structure IsNormal (step : Step) : Prop where
  /-- The action is the one its name is read as. -/
  action : step.action.IsNormal
  /-- The argument, if there is one, is not empty. -/
  argument : step.argument ≠ some ""

instance (step : Step) : Decidable step.IsNormal :=
  decidable_of_iff (step.action.IsNormal ∧ step.argument ≠ some "")
    ⟨fun h => ⟨h.1, h.2⟩, fun h => ⟨h.action, h.argument⟩⟩

/-- A sentence is understood as a normal step. -/
theorem isNormal_classify (classifier : Classifier) (sentence : String) :
    (classifier.classify sentence).IsNormal := by
  constructor
  · rw [Classifier.action_classify]
    exact Action.ofName_name_of_mem_known (Classifier.action_mem_known sentence)
  · rw [Classifier.argument_classify]
    split
    · rw [ne_eq, Option.filter_eq_some_iff]
      simp
    · simp

/-- No note is read as an empty argument. -/
theorem ne_of_argumentOfNote? {note : Option Json} {argument : Option String}
    (h : argumentOfNote? note = some argument) : argument ≠ some "" := by
  unfold argumentOfNote? at h
  split at h
  · cases h
    exact nofun
  · cases h
    exact nofun
  · obtain ⟨text, -, rfl⟩ := Option.map_eq_some_iff.mp h
    split
    · exact nofun
    · next hne => exact fun he => hne (Option.some.inj he)

theorem isNormal_of_ofValues? {action selectorName selector : Json}
    {fallbacks note : Option Json} {step : Step}
    (h : ofValues? action selectorName selector fallbacks note = some step) :
    step.IsNormal := by
  unfold ofValues? at h
  simp only [Option.bind_eq_bind, Option.bind_eq_some_iff, Option.pure_def,
    Option.some.injEq] at h
  obtain ⟨name, -, _, -, _, -, _, -, argument, ha, rfl⟩ := h
  exact ⟨Action.isNormal_ofName name, ne_of_argumentOfNote? ha⟩

/-- A value is read as a normal step, in either of its shapes. -/
theorem isNormal_of_ofJson? {value : Json} {step : Step} (h : ofJson? value = some step) :
    step.IsNormal := by
  unfold ofJson? at h
  split at h
  · exact isNormal_of_ofValues? h
  · exact isNormal_of_ofValues? h
  · exact isNormal_of_ofValues? h
  · unfold ofMembers? at h
    simp only [Option.bind_eq_bind, Option.bind_eq_some_iff] at h
    obtain ⟨_, -, _, -, _, -, _, -, _, -, _, -, _, -, _, -, _, -, hv⟩ := h
    exact isNormal_of_ofValues? hv

end Step

namespace StepMap

/-- **A map of normal steps.** -/
def IsNormal (map : StepMap) : Prop := ∀ step ∈ map.steps, step.IsNormal

instance (map : StepMap) : Decidable map.IsNormal :=
  inferInstanceAs (Decidable (∀ step ∈ map.steps, step.IsNormal))

/-! ## Nothing gets into a map that was not put in -/

theorem mem_of_mem_place {name : String} {steps : List Step}
    {scenarios : List (String × List Step)} {scenario : String × List Step}
    (h : scenario ∈ place name steps scenarios) :
    scenario = (name, steps) ∨ scenario ∈ scenarios := by
  induction scenarios with
  | nil => exact Or.inl (List.mem_singleton.mp h)
  | cons first rest ih =>
    obtain ⟨other, old⟩ := first
    rw [place] at h
    split at h
    · exact (List.mem_cons.mp h).imp_right (List.mem_cons_of_mem _)
    · rcases List.mem_cons.mp h with h | h
      · exact Or.inr (h ▸ List.mem_cons_self)
      · exact (ih h).imp_right (List.mem_cons_of_mem _)

theorem mem_of_mem_insertAll {scenarios : List (String × List Step)} {map : StepMap}
    {scenario : String × List Step} (h : scenario ∈ (map.insertAll scenarios).scenarios) :
    scenario ∈ map.scenarios ∨ scenario ∈ scenarios := by
  induction scenarios generalizing map with
  | nil => exact Or.inl h
  | cons first rest ih =>
    rcases ih h with hm | hr
    · rcases mem_of_mem_place hm with he | hm
      · exact Or.inr (he ▸ List.mem_cons_self)
      · exact Or.inl hm
    · exact Or.inr (List.mem_cons_of_mem _ hr)

/-- The scenarios of a map are among those it was made of. -/
theorem mem_of_mem_ofList {scenarios : List (String × List Step)}
    {scenario : String × List Step} (h : scenario ∈ (ofList scenarios).scenarios) :
    scenario ∈ scenarios :=
  (mem_of_mem_insertAll h).resolve_left List.not_mem_nil

/-- A map made of normal steps is normal. -/
theorem isNormal_ofList {scenarios : List (String × List Step)}
    (h : ∀ scenario ∈ scenarios, ∀ step ∈ scenario.2, step.IsNormal) :
    (ofList scenarios).IsNormal := by
  intro step hs
  obtain ⟨scenario, hm, hs⟩ := List.mem_flatMap.mp hs
  exact h scenario (mem_of_mem_ofList hm) step hs

/-! ## The two ways to come by a map -/

/-- **A feature is understood as a normal map.** -/
theorem isNormal_classify (classifier : Classifier) (feature : Feature) :
    (feature.classify classifier).IsNormal := by
  refine isNormal_ofList ?_
  intro scenario hm step hs
  obtain ⟨source, -, rfl⟩ := List.mem_map.mp hm
  obtain ⟨sentence, -, rfl⟩ := List.mem_map.mp hs
  exact Step.isNormal_classify classifier sentence

theorem isNormal_of_stepsOfJson? {value : Json} {steps : List Step}
    (h : stepsOfJson? value = some steps) : ∀ step ∈ steps, step.IsNormal := by
  obtain ⟨items, -, hi⟩ := Option.bind_eq_some_iff.mp h
  intro step hs
  obtain ⟨item, -, hj⟩ := exists_of_mapM_eq_some hi hs
  exact Step.isNormal_of_ofJson? hj

/-- **Any text that is read as a map is read as a normal one.** -/
theorem isNormal_of_parse? {text : String} {map : StepMap} (h : parse? text = some map) :
    map.IsNormal := by
  obtain ⟨value, -, ho⟩ := Option.bind_eq_some_iff.mp h
  obtain ⟨scenarios, ht, rfl⟩ := Option.map_eq_some_iff.mp ho
  obtain ⟨members, -, hm⟩ := Option.bind_eq_some_iff.mp ht
  refine isNormal_ofList ?_
  intro scenario hs
  obtain ⟨member, -, hr⟩ := exists_of_mapM_eq_some hm hs
  obtain ⟨steps, hsteps, rfl⟩ := Option.map_eq_some_iff.mp hr
  exact isNormal_of_stepsOfJson? hsteps

end StepMap

end Playscript
