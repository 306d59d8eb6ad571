import Playscript.Page.Units
import Playscript.Proofs.Json.Tokens
import Playscript.Proofs.StepMap.Normal
import Playscript.StepMap.Printer

/-!
# Writing a step map loses nothing

The written form of a step map is laid out by hand, with its own commas,
line ends and one-line arrays, while reading goes through JSON of any
layout. What joins them is a value that neither of them mentions: the JSON
value `toJson` that a map is meant to be written as. Writing spells the
tokens of that value (`spells_writeChars`), reading turns it into the map
again (`ofJson?_toJson`), and the general statement that a value is read
from its tokens does the rest.

Normality enters once, in the second half and for a single step. The
layout is right for every map, normal or not.
-/

namespace Playscript

open Json (Spells)

/-- A text as a JSON value. -/
def Json.ofText (text : String) : Json := .string (Json.escape text.toList)

@[simp] theorem Json.asString?_ofText (text : String) :
    (Json.ofText text).asString? = some text :=
  Json.decodeString?_escape text

/-- Texts that were put into an array are read from it. -/
theorem Json.asStrings?_ofTexts (texts : List String) :
    (Json.array (texts.map Json.ofText)).asStrings? = some texts := by
  show (texts.map Json.ofText).mapM Json.asString? = some texts
  exact mapM_map_eq_some fun text _ => Json.asString?_ofText text

namespace Step

/-- **The value a step is written as.** -/
def toJson (step : Step) : Json := .object [
  ("action".toList, .ofText step.action.name),
  ("selectorName".toList, .ofText step.selectorName),
  ("selector".toList, .ofText step.selector),
  ("fallbackSelector".toList, .array (step.fallbacks.map .ofText)),
  ("note".toList, .ofText step.argumentText)]

/-! ## A step is written as its value -/

theorem spells_writeFallbacks (texts : List String) :
    Spells (writeFallbacks texts) (Json.array (texts.map .ofText)).tokens := by
  cases texts with
  | nil =>
    have hopen : Spells ['['] [.leftBracket] :=
      Json.spells_mark [] [] rfl (fun _ => rfl) rfl rfl
    have hclose : Spells [']'] [.rightBracket] :=
      Json.spells_mark [] [] rfl (fun _ => rfl) rfl rfl
    exact hopen.append hclose
  | cons text rest =>
    have hopen : Spells "[ ".toList [.leftBracket] :=
      Json.spells_mark [] [' '] rfl (fun _ => rfl) rfl rfl
    have hclose : Spells " ]".toList [.rightBracket] :=
      Json.spells_mark [' '] [] rfl (fun _ => rfl) rfl rfl
    have hcomma : Spells ", ".toList [.comma] :=
      Json.spells_mark [] [' '] rfl (fun _ => rfl) rfl rfl
    have hitems := Json.spells_items Json.ofText writeTexts " ]".toList
      Json.spells_quote hcomma hclose (fun _ => rfl) (fun _ _ _ => rfl) text rest
    show Spells ("[ ".toList ++ writeTexts (text :: rest) ++ " ]".toList) _
    rw [List.append_assoc]
    exact hopen.append hitems

/-- The key of a member that is not the first, on a line of its own. -/
theorem spells_nextKey (key : String) :
    Spells (",\n      ".toList ++ (Json.quote key ++ ": ".toList))
      [.comma, .string (Json.escape key.toList), .colon] :=
  (Json.spells_mark [] "\n      ".toList rfl (fun _ => rfl) rfl rfl).append
    (Json.spells_key key)

/-- **The lines of a step spell its value.** -/
theorem spells_write (step : Step) : Spells step.write step.toJson.tokens := by
  have hopen : Spells "    \x7b\n      \"action\": ".toList
      [.leftBrace, .string "action".toList, .colon] :=
    (Json.spells_mark "    ".toList "\n      ".toList rfl (fun _ => rfl) rfl rfl).append
      (Json.spells_key "action")
  have hname : Spells ",\n      \"selectorName\": ".toList
      [.comma, .string "selectorName".toList, .colon] := spells_nextKey "selectorName"
  have hselector : Spells ",\n      \"selector\": ".toList
      [.comma, .string "selector".toList, .colon] := spells_nextKey "selector"
  have hfallbacks : Spells ",\n      \"fallbackSelector\": ".toList
      [.comma, .string "fallbackSelector".toList, .colon] := spells_nextKey "fallbackSelector"
  have hnote : Spells ",\n      \"note\": ".toList
      [.comma, .string "note".toList, .colon] := spells_nextKey "note"
  have hclose : Spells "\n    \x7d".toList [.rightBrace] :=
    Json.spells_mark "\n    ".toList [] rfl (fun _ => rfl) rfl rfl
  have hall := hopen.append <| (Json.spells_quote step.action.name).append <|
    hname.append <| (Json.spells_quote step.selectorName).append <|
    hselector.append <| (Json.spells_quote step.selector).append <|
    hfallbacks.append <| (spells_writeFallbacks step.fallbacks).append <|
    hnote.append <| (Json.spells_quote step.argumentText).append hclose
  unfold Step.write toJson
  simp only [List.append_assoc]
  exact hall

/-! ## A normal step is read from its value -/

theorem argumentOfNote?_argumentText {step : Step} (h : step.argument ≠ some "") :
    argumentOfNote? (some (.ofText step.argumentText)) = some step.argument := by
  show ((Json.ofText step.argumentText).asString?.map
    fun note => if note = "" then none else some note) = _
  rw [Json.asString?_ofText, Option.map_some]
  unfold argumentText
  cases ha : step.argument with
  | none => rfl
  | some text =>
    rw [Option.getD_some, if_neg (by rintro rfl; exact h ha)]

/-- **The value of a normal step is read as this step.** -/
theorem ofJson?_toJson {step : Step} (h : step.IsNormal) : ofJson? step.toJson = some step := by
  have hmembers : step.toJson.asObject? = some [
      ("action", .ofText step.action.name),
      ("selectorName", .ofText step.selectorName),
      ("selector", .ofText step.selector),
      ("fallbackSelector", .array (step.fallbacks.map .ofText)),
      ("note", .ofText step.argumentText)] := rfl
  show step.toJson.asObject?.bind ofMembers? = some step
  rw [hmembers, Option.bind_some]
  -- each of the five names is found once among the members
  show ofValues? (.ofText step.action.name) (.ofText step.selectorName) (.ofText step.selector)
    (some (.array (step.fallbacks.map .ofText))) (some (.ofText step.argumentText)) = some step
  unfold ofValues?
  rw [argumentOfNote?_argumentText h.argument,
    show fallbacksOfMember? (some (.array (step.fallbacks.map .ofText))) = some step.fallbacks
      from Json.asStrings?_ofTexts step.fallbacks]
  simp only [Json.asString?_ofText, Option.bind_eq_bind, Option.bind_some, Option.pure_def]
  rw [show Action.ofName step.action.name = step.action from h.action]

end Step

namespace StepMap

/-- The value the steps of a scenario are written as. -/
def stepsToJson (steps : List Step) : Json := .array (steps.map Step.toJson)

/-- **The value a step map is written as.** -/
def toJson (map : StepMap) : Json :=
  .object (map.scenarios.map fun scenario =>
    (Json.escape scenario.1.toList, stepsToJson scenario.2))

/-! ## A map is written as its value -/

theorem spells_writeSteps (steps : List Step) :
    Spells (writeSteps steps) (stepsToJson steps).tokens := by
  cases steps with
  | nil => exact Step.spells_writeFallbacks []
  | cons step rest =>
    have hopen : Spells "[\n".toList [.leftBracket] :=
      Json.spells_mark [] ['\n'] rfl (fun _ => rfl) rfl rfl
    have hlast : Spells "\n  ]".toList [.rightBracket] :=
      Json.spells_mark "\n  ".toList [] rfl (fun _ => rfl) rfl rfl
    have hcomma : Spells ",\n".toList [.comma] :=
      Json.spells_mark [] ['\n'] rfl (fun _ => rfl) rfl rfl
    have hitems := Json.spells_items Step.toJson Step.writeAll "  ]".toList
      Step.spells_write hcomma hlast (fun _ => List.append_assoc _ _ _) (fun _ _ _ => rfl) step rest
    show Spells ("[\n".toList ++ Step.writeAll (step :: rest) ++ "  ]".toList) _
    rw [List.append_assoc]
    exact hopen.append hitems

/-- The name of a scenario, the colon behind it and its steps. -/
theorem spells_scenario (name : String) (steps : List Step) :
    Spells ("  ".toList ++ Json.quote name ++ ": ".toList ++ writeSteps steps)
      (.string (Json.escape name.toList) :: .colon :: (stepsToJson steps).tokens) := by
  rw [List.append_assoc "  ".toList]
  exact ((Json.spells_space rfl).append (Json.spells_key name)).append
    (spells_writeSteps steps)

/-- The scenarios from some scenario on, and the brace behind the last. -/
theorem spells_writeScenarios (name : String) (steps : List Step)
    (rest : List (String × List Step)) :
    Spells (writeScenarios ((name, steps) :: rest) ++ "\x7d\n".toList)
      (.string (Json.escape name.toList) :: .colon :: ((stepsToJson steps).tokens
        ++ Json.memberTokens (rest.map fun scenario =>
          (Json.escape scenario.1.toList, stepsToJson scenario.2)))) := by
  induction rest generalizing name steps with
  | nil =>
    have hlast : Spells "\n\x7d\n".toList [.rightBrace] :=
      Json.spells_mark ['\n'] ['\n'] rfl (fun _ => rfl) rfl rfl
    rw [writeScenarios, List.append_assoc]
    exact (spells_scenario name steps).append hlast
  | cons scenario rest ih =>
    obtain ⟨next, others⟩ := scenario
    have hcomma : Spells ",\n".toList [.comma] :=
      Json.spells_mark [] ['\n'] rfl (fun _ => rfl) rfl rfl
    rw [writeScenarios, List.append_assoc, List.append_assoc]
    · exact (spells_scenario name steps).append (hcomma.append (ih next others))
    · exact nofun

/-- **The written form of any map spells its value.** -/
theorem spells_writeChars (map : StepMap) :
    Spells (writeChars map.scenarios) map.toJson.tokens := by
  unfold toJson
  cases map.scenarios with
  | nil =>
    have hopen : Spells ['\x7b'] [.leftBrace] :=
      Json.spells_mark [] [] rfl (fun _ => rfl) rfl rfl
    have hclose : Spells "\x7d\n".toList [.rightBrace] :=
      Json.spells_mark [] ['\n'] rfl (fun _ => rfl) rfl rfl
    exact hopen.append hclose
  | cons scenario rest =>
    obtain ⟨name, steps⟩ := scenario
    have hopen : Spells "\x7b\n".toList [.leftBrace] :=
      Json.spells_mark [] ['\n'] rfl (fun _ => rfl) rfl rfl
    rw [writeChars, List.append_assoc]
    · exact hopen.append (spells_writeScenarios name steps rest)
    · exact nofun

/-! ## A normal map is read from its value -/

/-- Steps that are put in under a new name come last. -/
theorem place_of_not_mem {name : String} {steps : List Step}
    {scenarios : List (String × List Step)} (h : name ∉ scenarios.map Prod.fst) :
    place name steps scenarios = scenarios ++ [(name, steps)] := by
  have hplace := place_append h steps []
  rwa [List.append_nil] at hplace

theorem scenarios_insertAll_of_nodup {scenarios : List (String × List Step)} (map : StepMap)
    (h : ((map.scenarios ++ scenarios).map Prod.fst).Nodup) :
    (map.insertAll scenarios).scenarios = map.scenarios ++ scenarios := by
  induction scenarios generalizing map with
  | nil => exact (List.append_nil _).symm
  | cons scenario rest ih =>
    have hnew : scenario.1 ∉ map.scenarios.map Prod.fst := by
      rw [List.map_append, List.map_cons] at h
      intro hm
      exact (List.nodup_append.mp h).2.2 _ hm _ List.mem_cons_self rfl
    have hs : (map.insert scenario.1 scenario.2).scenarios = map.scenarios ++ [scenario] :=
      place_of_not_mem hnew
    have hrest := ih (map.insert scenario.1 scenario.2) (by rw [hs, List.append_assoc]; exact h)
    rw [hs, List.append_assoc] at hrest
    exact hrest

/-- **A map is made of its own scenarios.** -/
theorem ofList_scenarios (map : StepMap) : ofList map.scenarios = map := by
  have h : (ofList map.scenarios).scenarios = map.scenarios :=
    scenarios_insertAll_of_nodup empty map.nodup
  cases map
  cases h' : ofList _
  rw [h'] at h
  subst h
  rfl

theorem stepsOfJson?_stepsToJson {steps : List Step} (h : ∀ step ∈ steps, step.IsNormal) :
    stepsOfJson? (stepsToJson steps) = some steps := by
  show (steps.map Step.toJson).mapM Step.ofJson? = some steps
  exact mapM_map_eq_some fun step hs => Step.ofJson?_toJson (h step hs)

/-- **The value of a normal map is read as this map.** -/
theorem ofJson?_toJson {map : StepMap} (h : map.IsNormal) : ofJson? map.toJson = some map := by
  have hmembers : map.toJson.asObject?
      = some (map.scenarios.map fun scenario => (scenario.1, stepsToJson scenario.2)) := by
    show (map.scenarios.map _).mapM _ = _
    rw [List.mapM_map]
    refine mapM_eq_pure (fun scenario _ => ?_)
    simp only [Function.comp_apply, Json.decodeString?_escape]
    rfl
  have htable : map.toJson.asTable? stepsOfJson? = some map.scenarios := by
    show map.toJson.asObject?.bind _ = _
    rw [hmembers, Option.bind_some]
    refine mapM_map_eq_some (fun scenario hs => ?_)
    have hsteps : ∀ step ∈ scenario.2, step.IsNormal :=
      fun step hm => h step (List.mem_flatMap.mpr ⟨scenario, hs, hm⟩)
    show (stepsOfJson? (stepsToJson scenario.2)).map (scenario.1, ·) = some scenario
    rw [stepsOfJson?_stepsToJson hsteps]
    rfl
  rw [ofJson?, htable, Option.map_some, ofList_scenarios]

/-! ## The whole way -/

/-- A normal map that is written and read is the same map. -/
theorem parse?_write_of_isNormal {map : StepMap} (h : map.IsNormal) :
    parse? map.write = some map := by
  have hvalue : Json.parse? map.write = some map.toJson :=
    Json.parse?_of_spells (spells_writeChars map)
  rw [parse?, hvalue]
  exact ofJson?_toJson h

/-- **A step map that is written and read is the same map**, scenario by
scenario, step by step and fallback by fallback, whatever texts it holds.
The map has to be normal; every map understood from a feature is, and
every map that was read from any text. So what was read once can be
written and read for ever without a change to the map or to a byte of its
file, and the modules generated from a map that went through a file are
those of the map that did not. -/
theorem parse?_write :
    (∀ map : StepMap, map.IsNormal → parse? map.write = some map)
      ∧ (∀ (classifier : Classifier) (feature : Feature),
          (feature.classify classifier).IsNormal)
      ∧ (∀ (text : String) (map : StepMap), parse? text = some map →
          map.IsNormal ∧ parse? map.write = some map
            ∧ (parse? map.write).map write = some map.write)
      ∧ ∀ (nouns : NounFinder) (base : String) (map : StepMap), map.IsNormal →
          (parse? map.write).map (Page.generate nouns base)
            = some (Page.generate nouns base map) := by
  refine ⟨fun map h => parse?_write_of_isNormal h, isNormal_classify, ?_, ?_⟩
  · intro text map h
    have hnormal := isNormal_of_parse? h
    have hread := parse?_write_of_isNormal hnormal
    exact ⟨hnormal, hread, by rw [hread, Option.map_some]⟩
  · intro nouns base map h
    rw [parse?_write_of_isNormal h, Option.map_some]

/-- A map with a quote, a backslash, a control character and a line
separator in its texts, and with an action nobody knows. -/
theorem parse?_write_awkward :
    let step : Step :=
      ⟨.unsupported "double\x22Click", "na\x5cme", "#a\u2028b", ["\x07", "\\u0041"], some "\n"⟩
    let map : StepMap := ofList [("say \"hi\"", [step]), ("", [])]
    map.IsNormal ∧ parse? map.write = some map := by
  intro step map
  have h : map.IsNormal := by decide
  exact ⟨h, parse?_write.1 map h⟩

end StepMap

end Playscript
