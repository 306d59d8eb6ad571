import Playscript.Table

/-!
# Selector tables

A project may say which locator stands behind a selector name (an alias)
and which ones to try when it finds nothing (the fallbacks). Some
fallbacks are known without being told.
-/

namespace Playscript

/-- **What is known about selector names.** -/
structure Selectors where
  /-- The locator to use for a name. -/
  aliases : Table String
  /-- The locators to try after it. -/
  fallbacks : Table (List String)
deriving Repr, DecidableEq

namespace Selectors

/-- Nothing is known. -/
def empty : Selectors := ⟨Table.empty, Table.empty⟩

/-- The fallbacks that are known without being told. -/
def builtinFallbacks : List (String × List String) := [
  ("userNameField",
    ["#username", "input[name=\"username\"]", "input[id=\"username\"]", "input[type=\"email\"]"]),
  ("passwordField", ["#password", "input[type=\"password\"]"]),
  ("loginButton", ["button:has-text(\"Login\")"]),
  ("countryDropdown", ["#country", "select[name=\"country\"]"]),
  ("termsCheckbox", ["#terms", "input[type=\"checkbox\"]"]),
  ("link", ["a"]),
  ("pageTitle", ["h1", "title"]),
  ("currentUrl", ["window.location.href"]),
  ("welcomeBanner", ["#welcome-message", ".welcome"]),
  ("avatar", ["img.profile-picture"]),
  ("iTheHomepage", ["main.home", "[data-testid=\"homepage\"]"]),
  ("theUpdateButton", ["#update", "button.update"]),
  ("theSaveButton", ["#save", "button.save"]),
  ("completeTheForm", ["#form-complete", ".form-success"])]

/-- No aliases, and the fallbacks that are known without being told. -/
def builtin : Selectors := ⟨Table.empty, Table.empty.putAll builtinFallbacks⟩

/-- Adds or replaces an alias. -/
def withAlias (s : Selectors) (name locator : String) : Selectors :=
  { s with aliases := s.aliases.put name locator }

/-- Adds or replaces the fallbacks of a name. -/
def withFallbacks (s : Selectors) (name : String) (locators : List String) : Selectors :=
  { s with fallbacks := s.fallbacks.put name locators }

/-- The locator a project has chosen for a name. -/
def alias? (s : Selectors) (name : String) : Option String :=
  s.aliases.get? name

/-- The fallbacks of a name; none when nothing is said about it. -/
def fallbacksOf (s : Selectors) (name : String) : List String :=
  (s.fallbacks.get? name).getD []

end Selectors

end Playscript
