import Playscript.Page.Units
import Playscript.Proofs.Page.Plan
import Playscript.Proofs.Page.Statement

/-!
# The two modules of a sound plan

Every step of writing the two modules may fail, at a name that is not legal
or at a class with two members of one name. For a sound plan none does, and
what comes out is known as a tree: the one thing that is left open is what
the statements of the methods are. They are given by a relation
(`IsMethodOf`), which says of each statement at once what it is in the page
object and what it is in the test.

That a sound plan has modules is therefore said together with what they
are, and the bodies of the methods are named once for both modules. So what
the modules have in common needs no comparison of two loops.
-/

namespace Playscript.Page

open Script

/-! ## The parts as trees -/

/-- **What a getter returns**: the chain of some locators. -/
def locatorChain (locators : List String) : Expr :=
  .call (.member .this ⟨"getLocatorChain"⟩) [.array (locators.map .str)]

/-- The getter of an accessor. -/
def getterOf (accessor : Accessor) : Member :=
  ⟨accessor.name, .getter, false, [], [.ret (some (locatorChain accessor.locators))]⟩

/-- **The override of `open`**, with the path it goes to when none is
given. -/
def openOverride (path : String) : Member :=
  ⟨⟨"open"⟩, .method, false, [⟨.name ⟨"pathSegment"⟩, some (.str path)⟩],
    [.ret (some (.call (.member .super ⟨"open"⟩) [.ident ⟨"pathSegment"⟩]))]⟩

/-- The class of a page object, given its methods. -/
def classOf (plan : Plan) (methods : List Member) : ClassDecl where
  name := ⟨plan.className⟩
  parent := some ⟨"Page"⟩
  maker := some ⟨[⟨.name ⟨"page"⟩, none⟩], [.expr (.call .super [.ident ⟨"page"⟩])]⟩
  members := plan.accessors.map getterOf ++ methods ++ [openOverride plan.defaultPath]

/-- The classes that a module declares. -/
def classes (module : Module) : List ClassDecl :=
  module.statements.filterMap fun
    | .classDecl decl => some decl
    | _ => none

/-- The module of a page object, given its methods. -/
def pageModuleOf (base : String) (plan : Plan) (methods : List Member) : Module := ⟨[
  .comment (provenance base),
  .const (.members [⟨"expect"⟩]) (.required "@playwright/test"),
  .const (.name ⟨"Page"⟩) (.required "./page"),
  .blank,
  .classDecl (classOf plan methods),
  .blank,
  .assign (.ident ⟨"module"⟩) ⟨"exports"⟩ (.ident ⟨plan.className⟩)]⟩

/-- **A test**: its title and the statements of its body. -/
structure Test where
  /-- The title. -/
  title : String
  /-- The statements of the body in order. -/
  body : List Stmt

/-- A test as a statement. -/
def Test.toStmt (test : Test) : Stmt :=
  .expr (.call (.ident ⟨"test"⟩)
    [.str test.title, .arrow true [⟨.members [⟨"page"⟩], none⟩] test.body])

/-- **The test of a method**: it makes a page object, opens it, and does
what the method does with that page object for `this`. -/
def testOf (className : Identifier) (method : Member) : Test where
  title := method.name.text
  body :=
    .const (.name ⟨"pageObj"⟩) (.construct (.ident className) [.ident ⟨"page"⟩])
      :: .expr (.await (.call (.member (.ident ⟨"pageObj"⟩) ⟨"open"⟩) []))
      :: method.body.map (Stmt.redirect .made)

/-- The statement that groups tests under a title, with empty lines between
them. -/
def suiteOf (title : String) (tests : List Test) : Stmt :=
  .expr (.call (.member (.ident ⟨"test"⟩) ⟨"describe"⟩)
    [.str title, .arrow false [] ((tests.map Test.toStmt).intersperse .blank)])

/-- What stands in front of the tests: the modules that are loaded. -/
def specFrame (base : String) (className : Identifier) : List Stmt := [
  .comment (provenance base),
  .const (.members [⟨"test"⟩, ⟨"expect"⟩]) (.required "@playwright/test"),
  .const (.name className) (.required ("../pageobjects/" ++ base ++ ".page")),
  .blank]

/-- The module of a test script, given the methods of the page object. -/
def specModuleOf (base : String) (plan : Plan) (methods : List Member) : Module :=
  ⟨specFrame base ⟨plan.className⟩
    ++ [suiteOf (specTitle base) (methods.map (testOf ⟨plan.className⟩))]⟩

/-! ## Methods -/

/-- **A statement does a step** through the getter of some name: in a method
on `this`, and put on the page object that a test has made, in the test. -/
structure Does (getter : Identifier) (step : Step) (stmt : Stmt) : Prop where
  /-- In a method. -/
  own : statement step (.member Receiver.own.self getter) Receiver.own.page = .ok stmt
  /-- In a test. -/
  made : statement step (.member Receiver.made.self getter) Receiver.made.page
    = .ok (stmt.redirect .made)

/-- **Such a statement reads no getter but this one.** -/
theorem Does.ownReads_eq {getter : Identifier} {step : Step} {stmt : Stmt}
    (h : Does getter step stmt) : stmt.ownReads = readsOf getter step.action :=
  ownReads_of_statement h.own

/-- **A member is the method of a plan**: asynchronous, without parameters,
one statement per step. -/
structure IsMethodOf (plan : Plan) (method : Method) (member : Member) : Prop where
  /-- It has the name that was planned. -/
  name_eq : member.name = method.name
  /-- It is called, and waited for. -/
  kind_eq : member.kind = .method ∧ member.isAsync = true ∧ member.params = []
  /-- It does the steps in order. -/
  does : List.Forall₂ (fun step stmt => Does (plan.accessor step.selectorName) step stmt)
    method.steps member.body

/-- Every step can be done through a getter that is not called `page`. -/
theorem exists_does {getter : Identifier} (h : getter.text ≠ "page") (step : Step) :
    ∃ stmt, Does getter step stmt := by
  obtain ⟨stmt, hown, hmade⟩ := statement_redirect .made step
    (.member Receiver.own.self getter) Receiver.own.page
  rw [redirect_own_page, redirect_member _ _ h] at hmade
  exact ⟨stmt, hown, hmade⟩

/-- The getter that a sound plan has for a step is not called `page`. -/
theorem Plan.IsSound.accessor_ne_page {plan : Plan} (h : plan.IsSound) {method : Method}
    (hm : method ∈ plan.methods) {step : Step} (hs : step ∈ method.steps) :
    (plan.accessor step.selectorName).text ≠ "page" := by
  obtain ⟨accessor, ha, hfind⟩ := h.covered method hm step hs
  have hname : accessor.name.text ∈ plan.memberNames :=
    List.mem_append_left _ (List.mem_map.mpr ⟨accessor, ha, rfl⟩)
  rw [Plan.accessor_eq hfind]
  intro he
  exact h.not_mem_baseMembers hname (he ▸ by decide)

/-- **A sound plan has methods.** -/
theorem exists_methods {plan : Plan} (h : plan.IsSound) :
    ∃ members, List.Forall₂ (IsMethodOf plan) plan.methods members := by
  refine exists_forall₂ fun method hm => ?_
  obtain ⟨body, hbody⟩ := exists_forall₂ fun step hs =>
    exists_does (h.accessor_ne_page hm hs) step
  exact ⟨⟨method.name, .method, true, [], body⟩, rfl, ⟨rfl, rfl, rfl⟩, hbody⟩

/-- The statements of a method. -/
theorem IsMethodOf.statements_own {plan : Plan} {method : Method} {member : Member}
    (h : IsMethodOf plan method member) :
    statements (.member Receiver.own.self ·) Receiver.own.page plan method.steps
      = .ok member.body :=
  mapM_eq_ok_of_forall₂ (h.does.imp fun _ _ hdoes => hdoes.own)

/-- The statements of the test of a method. -/
theorem IsMethodOf.statements_made {plan : Plan} {method : Method} {member : Member}
    (h : IsMethodOf plan method member) :
    statements (.member Receiver.made.self ·) Receiver.made.page plan method.steps
      = .ok (member.body.map (Stmt.redirect .made)) :=
  mapM_eq_ok_of_forall₂
    (List.forall₂_map_right_iff.mpr (h.does.imp fun _ _ hdoes => hdoes.made))

/-! ## Members and tests -/

theorem addGetter_eq_ok {accessor : Accessor} (h : accessor.name.isValid = true)
    (draft : ClassDraft) :
    addGetter draft accessor = .ok (draft.withMembers [getterOf accessor]) := by
  have hchain := isValid_of_mem_vocabulary "getLocatorChain" (by simp [vocabulary])
  rw [addGetter, Expr.invoke_eq_ok hchain, ok_bind]
  exact draft.adding_eq_ok h _ _ _ _

theorem addMethod_eq_ok {plan : Plan} {method : Method} {member : Member}
    (h : IsMethodOf plan method member) (hvalid : method.name.isValid = true)
    (draft : ClassDraft) :
    addMethod plan Receiver.own.page draft method = .ok (draft.withMembers [member]) := by
  rw [addMethod]
  -- the expressions are those of a method, spelled out
  show (statements (.member Receiver.own.self ·) _ _ _ >>= _) = _
  rw [h.statements_own, ok_bind]
  obtain ⟨name, kind, isAsync, params, body⟩ := member
  obtain ⟨rfl, ⟨rfl, rfl, rfl⟩, -⟩ := h
  exact draft.adding_eq_ok hvalid _ _ _ _

theorem addOpen_eq_ok (plan : Plan) (draft : ClassDraft) :
    addOpen plan draft = .ok (draft.withMembers [openOverride plan.defaultPath]) := by
  have hpath := isValid_of_mem_vocabulary "pathSegment" (by simp [vocabulary])
  have hopen := isValid_of_mem_vocabulary "open" (by simp [vocabulary])
  rw [addOpen, Param.withFallback_eq_ok hpath, ok_bind, Expr.named_eq_ok hpath, ok_bind,
    Expr.invoke_eq_ok hopen, ok_bind]
  exact draft.adding_eq_ok hopen _ _ _ _

/-- The test of a method can be built. -/
theorem test_eq_ok {plan : Plan} (hplan : plan.IsSound) {method : Method} {member : Member}
    (h : IsMethodOf plan method member) :
    test plan method = .ok (testOf ⟨plan.className⟩ member).toStmt := by
  have hpage := isValid_of_mem_vocabulary "page" (by simp [vocabulary])
  have hpageObj := isValid_of_mem_vocabulary "pageObj" (by simp [vocabulary])
  have htest := isValid_of_mem_vocabulary "test" (by simp [vocabulary])
  have hopen := isValid_of_mem_vocabulary "open" (by simp [vocabulary])
  rw [test, Expr.named_eq_ok hpage, ok_bind, Expr.named_eq_ok hpageObj, ok_bind,
    Expr.named_eq_ok hplan.className, ok_bind, Stmt.constant_eq_ok hpageObj, ok_bind,
    awaited_eq_ok hopen, ok_bind]
  -- the expressions are those of a test, spelled out
  show (statements (.member Receiver.made.self ·) Receiver.made.page _ _ >>= _) = _
  rw [h.statements_made, ok_bind,
    Param.destructured_eq_ok (List.forall_mem_singleton.mpr hpage), ok_bind,
    Expr.named_eq_ok htest, ok_bind, ← h.name_eq]
  rfl

/-! ## The two modules -/

section

variable {plan : Plan} (hplan : plan.IsSound) {methods : List Member}
  (h : List.Forall₂ (IsMethodOf plan) plan.methods methods)

include h

/-- The names of getters and methods are those of the plan. -/
theorem names_getters_methods :
    (plan.accessors.map getterOf ++ methods).map (·.name.text) = plan.memberNames := by
  have hmethods : methods.map (·.name.text) = plan.methods.map (·.name.text) :=
    map_eq_map_of_forall₂ (h.imp fun _ _ hmethod => congrArg Identifier.text hmethod.name_eq)
  rw [List.map_append, List.map_map, hmethods]
  rfl

include hplan

/-- **No two members of the class share a name.** -/
theorem nodup_names_classOf :
    ((classOf plan methods).members.map (·.name.text)).Nodup := by
  show ((plan.accessors.map getterOf ++ methods ++ [openOverride _]).map _).Nodup
  have hopen : "open" ∈ baseMembers := by decide
  rw [List.map_append, names_getters_methods h]
  exact hplan.nodup.sublist (List.Sublist.append_left (List.singleton_sublist.mpr hopen) _)

/-- No getter and no method hides a member of the base class. -/
theorem not_mem_baseMembers_of_mem {member : Member}
    (hm : member ∈ plan.accessors.map getterOf ++ methods) :
    member.name.text ∉ baseMembers := by
  refine hplan.not_mem_baseMembers ?_
  rw [← names_getters_methods h]
  exact List.mem_map.mpr ⟨member, hm, rfl⟩

/-- The members of the class have legal names. -/
theorem isValid_of_mem_classOf {member : Member} (hm : member ∈ (classOf plan methods).members) :
    member.name.isValid = true := by
  rcases List.mem_append.mp hm with hm | hm
  · rcases List.mem_append.mp hm with hm | hm
    · obtain ⟨accessor, ha, rfl⟩ := List.mem_map.mp hm
      exact hplan.accessors accessor ha
    · obtain ⟨method, hmethod, hof⟩ := exists_mem_of_forall₂ h.flip hm
      rw [hof.name_eq]
      exact hplan.methods method hmethod
  · rw [List.mem_singleton.mp hm]
    exact isValid_of_mem_vocabulary "open" (by simp [vocabulary])

/-- **The class of a sound plan can be built.** -/
theorem pageClass_eq_ok : pageClass plan = .ok (classOf plan methods) := by
  have hPage := isValid_of_mem_vocabulary "Page" (by simp [vocabulary])
  have hpage := isValid_of_mem_vocabulary "page" (by simp [vocabulary])
  have hgetters : List.Forall₂ (fun accessor member =>
      ∀ draft, addGetter draft accessor = .ok (draft.withMembers [member]))
      plan.accessors (plan.accessors.map getterOf) :=
    List.forall₂_map_right_iff.mpr
      (List.forall₂_same.mpr fun accessor ha => addGetter_eq_ok (hplan.accessors accessor ha))
  have hmethods : List.Forall₂ (fun method member =>
      ∀ draft, addMethod plan Receiver.own.page draft method = .ok (draft.withMembers [member]))
      plan.methods methods :=
    ((List.forall₂_and_left _ _).mpr ⟨hplan.methods, h⟩).imp
      fun _ _ hmethod => addMethod_eq_ok hmethod.2 hmethod.1
  rw [pageClass, ClassDraft.start_eq_ok hplan.className, ok_bind,
    ClassDraft.extending_eq_ok _ hPage, ok_bind, Expr.named_eq_ok hpage, ok_bind,
    ClassDraft.constructing_eq_ok _ (List.forall_mem_singleton.mpr hpage), ok_bind,
    ClassDraft.foldlM_eq_ok hgetters, ok_bind, Expr.dot_eq_ok hpage, ok_bind]
  show (plan.methods.foldlM (addMethod plan Receiver.own.page) _ >>= _) = _
  rw [ClassDraft.foldlM_eq_ok hmethods, ok_bind, addOpen_eq_ok, ok_bind]
  exact ClassDraft.finish_eq_ok (nodup_names_classOf hplan h)

/-- **The module of the page object of a sound plan.** -/
theorem pageModule_eq_ok (base : String) :
    pageModule base plan = .ok (pageModuleOf base plan methods) := by
  have hPage := isValid_of_mem_vocabulary "Page" (by simp [vocabulary])
  have hexpect := isValid_of_mem_vocabulary "expect" (by simp [vocabulary])
  rw [pageModule, pageClass_eq_ok hplan h, ok_bind,
    Stmt.requireMembers_eq_ok (List.forall_mem_singleton.mpr hexpect), ok_bind,
    Stmt.require_eq_ok hPage, ok_bind, Stmt.offer_eq_ok hplan.className]
  rfl

/-- **The module of the test script of a sound plan.** -/
theorem specModule_eq_ok (base : String) :
    specModule base plan = .ok (specModuleOf base plan methods) := by
  have htest := isValid_of_mem_vocabulary "test" (by simp [vocabulary])
  have hexpect := isValid_of_mem_vocabulary "expect" (by simp [vocabulary])
  have hdescribe := isValid_of_mem_vocabulary "describe" (by simp [vocabulary])
  have htests : plan.methods.mapM (test plan)
      = .ok ((methods.map (testOf ⟨plan.className⟩)).map Test.toStmt) := by
    refine mapM_eq_ok_of_forall₂ ?_
    rw [List.map_map, List.forall₂_map_right_iff]
    exact h.imp fun _ _ hmethod => test_eq_ok hplan hmethod
  have hnames : ∀ name ∈ ["test", "expect"], (Identifier.mk name).isValid = true :=
    List.forall_mem_cons.mpr ⟨htest, List.forall_mem_singleton.mpr hexpect⟩
  rw [specModule, htests, ok_bind, Expr.named_eq_ok htest, ok_bind,
    Expr.invoke_eq_ok hdescribe, ok_bind, Stmt.requireMembers_eq_ok hnames, ok_bind,
    Stmt.require_eq_ok hplan.className]
  rfl

end

/-- **The two modules that are written for a map**, whatever the methods are
taken to be. -/
theorem generate_eq_ok (nouns : NounFinder) (base : String) (map : StepMap)
    {methods : List Member}
    (h : List.Forall₂ (IsMethodOf (Plan.of nouns base map)) (Plan.of nouns base map).methods
      methods) :
    generate nouns base map = .ok
      ⟨(pageModuleOf base (Plan.of nouns base map) methods).write,
        (specModuleOf base (Plan.of nouns base map) methods).write⟩ := by
  have hplan := Plan.isSound_of nouns base map
  rw [generate]
  show (pageModule base (Plan.of nouns base map) >>= _) = _
  rw [pageModule_eq_ok hplan h base, ok_bind, specModule_eq_ok hplan h base, ok_bind]
  rfl

/-- **Generation never fails**: whatever the name of the feature, the map
and the finder of nouns, both modules can be built and are written. -/
theorem exists_generate_eq_ok (nouns : NounFinder) (base : String) (map : StepMap) :
    ∃ page spec, pageModule base (Plan.of nouns base map) = .ok page
      ∧ specModule base (Plan.of nouns base map) = .ok spec
      ∧ generate nouns base map = .ok ⟨page.write, spec.write⟩ := by
  have hplan := Plan.isSound_of nouns base map
  obtain ⟨methods, h⟩ := exists_methods hplan
  exact ⟨_, _, pageModule_eq_ok hplan h base, specModule_eq_ok hplan h base,
    generate_eq_ok nouns base map h⟩

end Playscript.Page
