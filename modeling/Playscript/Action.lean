import Playscript.Text.Words

/-!
# Actions

What a step does to its element. An action is known by a name, in maps
and in comments alike; a name nobody knows is kept (`Action.unsupported`)
so that what is written about it can cite it.

Each action comes with the kinds of element it makes sense for, written
as fragments of locators. A locator is *accepted* when it contains one of
them. This is a diagnosis and rejects nothing.
-/

namespace Playscript

/-- **What a step does to its element.** -/
inductive Action where
  /-- Click the element. -/
  | click
  /-- Fill the element with the argument. -/
  | setValue
  /-- Fill the element with the empty text. -/
  | clearText
  /-- Choose the option that the argument labels. -/
  | selectDropdown
  /-- Attach the file whose path is the argument. -/
  | uploadFile
  /-- Move the pointer over the element. -/
  | hover
  /-- Scroll the element into view. -/
  | scrollTo
  /-- Wait until the element is visible. -/
  | waitForVisible
  /-- Expect the element to be visible. -/
  | assertVisible
  /-- Expect the text of the element to be the argument. -/
  | assertText
  /-- Expect the element to be enabled. -/
  | assertEnabled
  /-- Expect the element to be disabled. -/
  | assertDisabled
  /-- Expect the title of the document to be the argument. -/
  | assertTitle
  /-- Expect the address of the document to contain the argument. -/
  | assertUrlContains
  /-- The step says nothing that is understood. -/
  | unknown
  /-- An action read from a map under a name that nobody knows. -/
  | unsupported (name : String)
deriving Repr, DecidableEq

namespace Action

/-- The actions with a name of their own, `unknown` last. -/
def known : List Action := [
  click, setValue, clearText, selectDropdown, uploadFile, hover, scrollTo, waitForVisible,
  assertVisible, assertText, assertEnabled, assertDisabled, assertTitle, assertUrlContains,
  unknown]

/-- The name of an action, in maps and in messages. -/
def name : Action → String
  | click => "click"
  | setValue => "setValue"
  | clearText => "clearText"
  | selectDropdown => "selectDropdown"
  | uploadFile => "uploadFile"
  | hover => "hover"
  | scrollTo => "scrollTo"
  | waitForVisible => "waitForVisible"
  | assertVisible => "assertVisible"
  | assertText => "assertText"
  | assertEnabled => "assertEnabled"
  | assertDisabled => "assertDisabled"
  | assertTitle => "assertTitle"
  | assertUrlContains => "assertUrlContains"
  | unknown => "unknown"
  | unsupported name => name

/-- **The action of a name.** Older maps write `setText` for `setValue`;
a name that is not known is kept. -/
def ofName (name : String) : Action :=
  if name = "setText" then setValue
  else (known.find? (·.name = name)).getD (unsupported name)

/-- Whether the quoted text of a step is the argument of the action. -/
def needsArgument : Action → Bool
  | setValue | uploadFile | selectDropdown | assertText | assertTitle | assertUrlContains => true
  | _ => false

/-- Whether there is code that performs the action. -/
def isSupported : Action → Bool
  | unknown | unsupported _ => false
  | _ => true

/-- **The fragments of locators an action goes with**; `*` stands for any
locator. -/
def targets : Action → List String
  | click => ["button", "a", "input[type=\"submit\"]", "input[type=\"button\"]"]
  | setValue => [
      "input", "textarea", "input[type=\"text\"]", "input[type=\"email\"]",
      "input[type=\"number\"]", "input[type=\"tel\"]"]
  | selectDropdown => ["select", "[role=\"combobox\"]", ".dropdown"]
  | uploadFile => ["input[type=\"file\"]"]
  | clearText => ["input", "textarea"]
  | scrollTo => ["div", "section", "main"]
  | hover => ["button", "a", "img", "[role=\"button\"]"]
  | assertTitle => ["title"]
  | _ => ["*"]

/-- Whether a locator looks like a target of the action. -/
def accepts (action : Action) (locator : String) : Bool :=
  action.targets.contains "*"
    || action.targets.any fun fragment => Text.occursIn fragment.toList locator.toList

/-- A name that is known reads back as its action. -/
theorem ofName_name_of_mem_known {action : Action} (h : action ∈ known) :
    ofName action.name = action := by
  simp only [known, List.mem_cons, List.not_mem_nil, or_false] at h
  rcases h with h | h | h | h | h | h | h | h | h | h | h | h | h | h | h <;> subst h <;> decide

end Action

end Playscript
