import Playscript.Path
import Playscript.Suffix

/-!
# Project layouts

Where a project keeps its files. There is a layout by custom beneath every
directory, and parts of it can be moved.
-/

namespace Playscript

/-- **Where a project keeps its files.** -/
structure Layout where
  /-- The directory of the features. -/
  features : Path
  /-- The directory of the step maps. -/
  stepMaps : Path
  /-- The directory of the page objects and their base class. -/
  pageObjects : Path
  /-- The directory of the test scripts. -/
  specs : Path
  /-- The file of the aliases. -/
  aliasFile : Path
  /-- The file of the fallbacks. -/
  fallbackFile : Path
deriving Repr, DecidableEq

namespace Layout

/-- **The customary layout** beneath a directory. -/
def beneath (root : Path) : Layout where
  features := root.join ⟨"features"⟩
  stepMaps := root.join ⟨"stepMaps"⟩
  pageObjects := (root.join ⟨"tests"⟩).join ⟨"pageobjects"⟩
  specs := (root.join ⟨"tests"⟩).join ⟨"specs"⟩
  aliasFile := root.join ⟨"selector-aliases.json"⟩
  fallbackFile := root.join ⟨"selector-fallbacks.json"⟩

/-- The layout with its features elsewhere. -/
def withFeatures (layout : Layout) (dir : Path) : Layout :=
  { layout with features := dir }

/-- The layout with its step maps elsewhere. -/
def withStepMaps (layout : Layout) (dir : Path) : Layout :=
  { layout with stepMaps := dir }

/-- The layout with what is generated beneath another directory. -/
def withOutput (layout : Layout) (dir : Path) : Layout :=
  { layout with pageObjects := dir.join ⟨"pageobjects"⟩, specs := dir.join ⟨"specs"⟩ }

/-- The step map of a feature. -/
def stepMapOf (layout : Layout) (base : String) : Path :=
  layout.stepMaps.join ⟨base ++ Suffix.stepMap⟩

/-- The page object of a feature. -/
def pageObjectOf (layout : Layout) (base : String) : Path :=
  layout.pageObjects.join ⟨base ++ Suffix.pageObject⟩

/-- The test script of a feature. -/
def specOf (layout : Layout) (base : String) : Path :=
  layout.specs.join ⟨base ++ Suffix.spec⟩

end Layout

end Playscript
