import Playscript.Console
import Playscript.Feature.Basic
import Playscript.Json.Value
import Playscript.Layout
import Playscript.Page.Units
import Playscript.StepMap.Printer
import Playscript.StepMap.Reader

/-!
# Processing single inputs

There are two stages. The first understands the steps of a feature and
keeps them as a step map; the second writes the page object and the test
script of a step map, and the base class of page objects beside them if it
is missing. A step map may be edited by hand between the two.
-/

namespace Playscript

variable {m : Type → Type} [Monad m] [Disk m]

/-- The text of an input, which must be a file. -/
def inputText (path : Path) : m (Except Fault String) := do
  if ← Disk.isFile path then
    match ← Disk.readText path with
    | .ok text => return .ok text
    | .error error => return .error (.disk error)
  else return .error (.notFound path)

/-- **Loads a feature.** -/
def Feature.load (path : Path) : m (Except Fault Feature) := do
  match ← inputText path with
  | .ok text => return Feature.parse path text
  | .error fault => return .error fault

/-- **Loads a step map.** -/
def StepMap.load (path : Path) : m (Except Fault StepMap) := do
  match ← inputText path with
  | .error fault => return .error fault
  | .ok text =>
    match StepMap.parse? text with
    | some map => return .ok map
    | none => return .error (.malformedStepMap path)

/-- Loads the entries of a selector table; none when there is no file. -/
def loadTable {α : Type} (read : Json → Option α) (path : Path) :
    m (Except Fault (List (String × α))) := do
  if ← Disk.isThere path then
    match ← Disk.readText path with
    | .error error => return .error (.disk error)
    | .ok text =>
      match (Json.parse? text).bind (Json.asTable? read) with
      | some entries => return .ok entries
      | none => return .error (.invalidSelectors path)
  else return .ok []

/-- **Loads the selector tables of a project** over those that are known
without being told. -/
def Selectors.load (layout : Layout) : m (Except Fault Selectors) := do
  match ← loadTable Json.asString? layout.aliasFile with
  | .error fault => return .error fault
  | .ok aliases =>
    match ← loadTable Json.asStrings? layout.fallbackFile with
    | .error fault => return .error fault
    | .ok fallbacks =>
      let known := Selectors.builtin
      return .ok ⟨known.aliases.putAll aliases, known.fallbacks.putAll fallbacks⟩

/-- Writes the outputs of an input and reports what became of them. -/
def writeOutputs (input : Path) (base : String) (drafts : List Draft) (options : WriteOptions) :
    m (Except Fault Report) := do
  match ← Output.writeAll drafts options with
  | .ok outcome => return .ok ⟨input, base, outcome⟩
  | .error error => return .error (.disk error)

/-- **Understands the steps of a feature file** and keeps them as its step
map. -/
def classifyFile (layout : Layout) (classifier : Classifier) (options : WriteOptions)
    (path : Path) : m (Except Fault Report) := do
  match ← Feature.load path with
  | .error fault => return .error fault
  | .ok feature =>
    let draft := (layout.stepMapOf feature.base, (feature.classify classifier).write)
    writeOutputs path feature.base [draft] options

/-- The drafts of the page object and the test script of a feature. -/
def unitDrafts (layout : Layout) (base : String) (units : Page.Units) : List Draft :=
  [(layout.pageObjectOf base, units.pageObject), (layout.specOf base, units.testSpec)]

/-- Sees to the base class of page objects when outputs were written. -/
def withBase (layout : Layout) (report : Report) : m (Except Fault Report) := do
  match report.outcome with
  | .written _ =>
    match ← Output.ensureBase layout.pageObjects with
    | .ok _ => return .ok report
    | .error error => return .error (.disk error)
  | _ => return .ok report

/-- **Writes the page object and the test script of a step map file.** The
name of the file is looked at first. -/
def generateFile (layout : Layout) (nouns : NounFinder) (options : WriteOptions) (path : Path) :
    m (Except Fault Report) := do
  match path.stem? Suffix.stepMap with
  | none => return .error (.unsupportedInput path Suffix.stepMap)
  | some base =>
    match ← StepMap.load path with
    | .error fault => return .error fault
    | .ok map =>
      match Page.generate nouns base map with
      | .error cause => return .error (.unbuildable cause)
      | .ok units =>
        match ← writeOutputs path base (unitDrafts layout base units) options with
        | .error fault => return .error fault
        | .ok report => withBase layout report

end Playscript
