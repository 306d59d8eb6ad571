import Playscript.Page.Plan
import Playscript.Page.Statement
import Playscript.Script.Printer
import Playscript.Suffix

/-!
# Page objects and test scripts

Two modules are written for a step map. The page object has a getter per
accessor, a method per scenario and the override of `open`; the test
script has a test per scenario that makes a page object, opens it and does
the steps. Both do the same statements for a scenario: the page object on
itself, the test on the page object it has made.
-/

namespace Playscript.Page

open Script

/-- **The two modules of a feature**, as they are written. -/
structure Units where
  /-- The page object. -/
  pageObject : String
  /-- The test script. -/
  testSpec : String
deriving Repr, DecidableEq

/-- The first line of either module. -/
def provenance (base : String) : String :=
  "Generated by testgen from " ++ base ++ Suffix.stepMap

/-- The statements of steps, given how an element and the page are referred
to. -/
def statements (locator : Identifier → Expr) (page : Expr) (plan : Plan) (steps : List Step) :
    Except BuildError (List Stmt) :=
  steps.mapM fun step => statement step (locator (plan.accessor step.selectorName)) page

/-- Adds the getter of an accessor to a class. -/
def addGetter (draft : ClassDraft) (accessor : Accessor) : Except BuildError ClassDraft := do
  let chain ← Expr.this.invoke "getLocatorChain" [.array (accessor.locators.map .str)]
  draft.getter accessor.name.text [.ret (some chain)]

/-- Adds the method of a scenario to a class. -/
def addMethod (plan : Plan) (page : Expr) (draft : ClassDraft) (method : Method) :
    Except BuildError ClassDraft := do
  let body ← statements (.member .this ·) page plan method.steps
  draft.asyncMethod method.name.text [] body

/-- Adds the override of `open` to a class. -/
def addOpen (plan : Plan) (draft : ClassDraft) : Except BuildError ClassDraft := do
  let path ← Param.withFallback "pathSegment" (.str plan.defaultPath)
  let opened ← Expr.super.invoke "open" [← Expr.named "pathSegment"]
  draft.method "open" [path] [.ret (some opened)]

/-- The class of a page object. -/
def pageClass (plan : Plan) : Except BuildError ClassDecl := do
  let draft ← ClassDraft.start plan.className
  let draft ← draft.extending "Page"
  let draft ← draft.constructing ["page"] [.expr (.call .super [← Expr.named "page"])]
  let draft ← plan.accessors.foldlM addGetter draft
  let page ← Expr.this.dot "page"
  let draft ← plan.methods.foldlM (addMethod plan page) draft
  let draft ← addOpen plan draft
  draft.finish

/-- **The module of a page object.** -/
def pageModule (base : String) (plan : Plan) : Except BuildError Module := do
  let decl ← pageClass plan
  return ⟨[
    .comment (provenance base),
    ← Stmt.requireMembers ["expect"] "@playwright/test",
    ← Stmt.require "Page" "./page",
    .blank,
    .classDecl decl,
    .blank,
    ← Stmt.offer plan.className]⟩

/-- The test of a scenario. -/
def test (plan : Plan) (method : Method) : Except BuildError Stmt := do
  let page ← Expr.named "page"
  let pageObject ← Expr.named "pageObj"
  let made ← Stmt.constant "pageObj" (.construct (← Expr.named plan.className) [page])
  let opened ← awaited pageObject "open" []
  let body ← statements (.member pageObject ·) page plan method.steps
  let scenario := Expr.arrow true [← Param.destructured ["page"]] (made :: opened :: body)
  return .expr (.call (← Expr.named "test") [.str method.name.text, scenario])

/-- The title of the tests of a feature. -/
def specTitle (base : String) : String :=
  String.ofList (base.toList.map fun c => if c = '-' then ' ' else c) ++ " feature tests"

/-- **The module of a test script.** -/
def specModule (base : String) (plan : Plan) : Except BuildError Module := do
  let tests ← plan.methods.mapM (test plan)
  let suite ← (← Expr.named "test").invoke "describe"
    [.str (specTitle base), .arrow false [] (tests.intersperse .blank)]
  return ⟨[
    .comment (provenance base),
    ← Stmt.requireMembers ["test", "expect"] "@playwright/test",
    ← Stmt.require plan.className ("../pageobjects/" ++ base ++ ".page"),
    .blank,
    .expr suite]⟩

/-- **Writes the two modules of a feature.** -/
def generate (nouns : NounFinder) (base : String) (map : StepMap) : Except BuildError Units := do
  let plan := Plan.of nouns base map
  let pageObject ← pageModule base plan
  let testSpec ← specModule base plan
  return ⟨pageObject.write, testSpec.write⟩

end Playscript.Page
