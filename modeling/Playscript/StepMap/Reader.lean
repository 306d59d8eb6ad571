import Playscript.Json.Value
import Playscript.StepMap.Basic

/-!
# Reading step maps

A step map is kept as a JSON object: a member per scenario, an array of
steps in each. A step is an object with the members `action`,
`selectorName`, `selector`, `fallbackSelector` and `note`, of which the
last two may be missing and none may be repeated; members of other names
are passed over whatever they hold. The same five values may also stand in
an array, in this order.

A scenario that is repeated keeps its first place and gets its last
steps.
-/

namespace Playscript

namespace Step

/-- The argument of a step from its note. A missing note, `null` and the
empty text all say that there is none. -/
def argumentOfNote? : Option Json → Option (Option String)
  | none => some none
  | some .null => some none
  | some value => value.asString?.map fun note => if note = "" then none else some note

/-- The fallbacks of a step from their member, which may be missing. -/
def fallbacksOfMember? : Option Json → Option (List String)
  | none => some []
  | some value => value.asStrings?

/-- A step from the values of its members. -/
def ofValues? (action selectorName selector : Json) (fallbacks note : Option Json) :
    Option Step := do
  let action ← action.asString?
  let selectorName ← selectorName.asString?
  let selector ← selector.asString?
  let fallbacks ← fallbacksOfMember? fallbacks
  let argument ← argumentOfNote? note
  return { action := Action.ofName action, selectorName, selector, fallbacks, argument }

/-- A step from the members of an object. -/
def ofMembers? (members : List (String × Json)) : Option Step := do
  let action ← (← Json.onlyMember? members "action")
  let selectorName ← (← Json.onlyMember? members "selectorName")
  let selector ← (← Json.onlyMember? members "selector")
  let fallbacks ← Json.onlyMember? members "fallbackSelector"
  let note ← Json.onlyMember? members "note"
  ofValues? action selectorName selector fallbacks note

/-- **Reads a step.** -/
def ofJson? : Json → Option Step
  | .array [action, selectorName, selector] => ofValues? action selectorName selector none none
  | .array [action, selectorName, selector, fallbacks] =>
    ofValues? action selectorName selector (some fallbacks) none
  | .array [action, selectorName, selector, fallbacks, note] =>
    ofValues? action selectorName selector (some fallbacks) (some note)
  | value => do ofMembers? (← value.asObject?)

end Step

namespace StepMap

/-- Reads the steps of a scenario. -/
def stepsOfJson? (value : Json) : Option (List Step) := do
  (← value.asArray?).mapM Step.ofJson?

/-- **Reads a step map.** -/
def ofJson? (value : Json) : Option StepMap :=
  (value.asTable? stepsOfJson?).map ofList

/-- **Reads a text as a step map.** -/
def parse? (text : String) : Option StepMap := do
  ofJson? (← Json.parse? text)

end StepMap

end Playscript
