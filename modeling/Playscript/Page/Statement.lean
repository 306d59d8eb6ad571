import Playscript.Script.Build
import Playscript.Step

/-!
# The statement of a step

Each action is one statement: a call on the element, an expectation about
the element or about the page, or, for an action there is no code for, a
comment that names it.
-/

namespace Playscript.Page

open Script

/-- The call of a method that is waited for. -/
def awaited (target : Expr) (method : String) (args : List Expr) : Except BuildError Stmt :=
  return .expr (.await (← target.invoke method args))

/-- What is expected of a thing. -/
def expectation (target : Expr) : Except BuildError Expr :=
  return .call (← Expr.named "expect") [target]

/-- The comment that stands for an action there is no code for. The name is
escaped, so that it cannot end the line. -/
def unsupportedComment (action : Action) : String :=
  "⚠️ Unsupported action: " ++ escapeText action.name

/-- **The statement of a step**, given how its element and its page are
referred to. -/
def statement (step : Step) (locator page : Expr) : Except BuildError Stmt :=
  let argument := Expr.str step.argumentText
  match step.action with
  | .click => awaited locator "click" []
  | .setValue => awaited locator "fill" [argument]
  | .clearText => awaited locator "fill" [.str ""]
  | .selectDropdown => awaited locator "selectOption" [.object [⟨"label", argument⟩]]
  | .uploadFile => awaited locator "setInputFiles" [argument]
  | .hover => awaited locator "hover" []
  | .scrollTo => awaited locator "scrollIntoViewIfNeeded" []
  | .waitForVisible => awaited locator "waitFor" [.object [⟨"state", .str "visible"⟩]]
  | .assertVisible => do awaited (← expectation locator) "toBeVisible" []
  | .assertText => do awaited (← expectation locator) "toHaveText" [argument]
  | .assertEnabled => do awaited (← expectation locator) "toBeEnabled" []
  | .assertDisabled => do awaited (← expectation locator) "toBeDisabled" []
  | .assertTitle => do awaited (← expectation page) "toHaveTitle" [argument]
  | .assertUrlContains => do
    awaited (← expectation page) "toHaveURL" [Expr.matching step.argumentText]
  | .unknown | .unsupported _ => .ok (.comment (unsupportedComment step.action))

end Playscript.Page
