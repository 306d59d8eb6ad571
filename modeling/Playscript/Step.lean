import Playscript.Action

/-!
# Steps

A step after it has been understood: what is done, to which element, and
with which text.
-/

namespace Playscript

/-- **A step that has been understood.** -/
structure Step where
  /-- What the step does. -/
  action : Action
  /-- The name under which the element of the step is known. -/
  selectorName : String
  /-- The locator tried first. -/
  selector : String
  /-- The locators tried after it, in order. -/
  fallbacks : List String
  /-- The text the step quotes, when its action takes one. -/
  argument : Option String
deriving Repr, DecidableEq

namespace Step

/-- The argument, or the empty text when there is none. -/
def argumentText (step : Step) : String :=
  step.argument.getD ""

/-- **Every locator of a step**, in the order of trial and each one once. -/
def candidates (step : Step) : List String :=
  (step.selector :: step.fallbacks).eraseDups

end Step

end Playscript
