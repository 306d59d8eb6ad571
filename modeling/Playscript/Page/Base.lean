/-!
# The base class of page objects

Every page object extends one class, which knows how to open a path and
how to try locators one after the other. Its module is the same for every
project.
-/

namespace Playscript.Page

/-- The name of the file of the base class, beside the page objects. -/
def baseFile : String := "page.js"

/-- The lines of the module of the base class. -/
def baseLines : List String := [
  "// Generated by testgen",
  "class Page \x7b",
  "  constructor(page) \x7b",
  "    this.page = page;",
  "  \x7d",
  "",
  "  open(pathSegment = \"\") \x7b",
  "    const baseUrl = process.env.BASE_URL || \"https://the-internet.herokuapp.com\";",
  "    return this.page.goto(`$\x7bbaseUrl\x7d/$\x7bpathSegment\x7d`);",
  "  \x7d",
  "",
  "  getLocatorChain(selectors = []) \x7b",
  "    if (!Array.isArray(selectors) || selectors.length === 0) \x7b",
  "      throw new Error(\"No selectors provided to getLocatorChain\");",
  "    \x7d",
  "",
  "    const locators = selectors.map((sel) => this.page.locator(sel));",
  "    const chained = locators.slice(1).reduce((acc, loc) => acc.or(loc), locators[0]);",
  "",
  "    chained",
  "      .first()",
  "      .waitFor(\x7b state: \"visible\", timeout: 2000 \x7d)",
  "      .catch(() => \x7b",
  "        console.warn(`None of the selectors resolved: $\x7bselectors.join(\" | \")\x7d`);",
  "      \x7d);",
  "",
  "    return chained;",
  "  \x7d",
  "\x7d",
  "",
  "module.exports = Page;"]

/-- **The module of the base class.** -/
def baseSource : String :=
  String.join (baseLines.map (· ++ "\n"))

end Playscript.Page
