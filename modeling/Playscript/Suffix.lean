/-!
# File name suffixes

What a file is for shows in the end of its name.
-/

namespace Playscript.Suffix

/-- A feature. -/
def feature : String := ".feature"

/-- A step map. -/
def stepMap : String := ".stepMap.json"

/-- A page object. -/
def pageObject : String := ".page.js"

/-- A test script. -/
def spec : String := ".spec.js"

end Playscript.Suffix
