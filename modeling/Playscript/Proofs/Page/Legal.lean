import Playscript.Proofs.Page.Modules
import Playscript.Proofs.Script.Lexing

/-!
# Generated scripts may be written down

The texts of a step map come into a script in two ways: as strings, of which
nothing is asked, and as names, all of which a plan has mended. So the
scripts that are generated satisfy what is asked of scripts in general, and
they are scanned as they were meant.

That it is so with every name is not read off the scripts again. The tree of
either module is known (`pageModuleOf`, `specModuleOf`) but for the
statements of the steps, and those put nothing together but what they were
given, fixed names and strings (`allLegal_of_statement`).
-/

namespace Playscript.Page

open Script

/-- **Leaves that may all be written down.** -/
def AllLegal (leaves : List Leaf) : Prop := ∀ leaf ∈ leaves, leaf.IsLegal

theorem AllLegal.append {leaves others : List Leaf} (h : AllLegal leaves) (h' : AllLegal others) :
    AllLegal (leaves ++ others) := List.forall_mem_append.mpr ⟨h, h'⟩

theorem allLegal_nil : AllLegal [] := List.forall_mem_nil _

/-- A leaf in front of leaves. -/
theorem AllLegal.cons {leaf : Leaf} {leaves : List Leaf} (h : leaf.IsLegal) (h' : AllLegal leaves) :
    AllLegal (leaf :: leaves) := List.forall_mem_cons.mpr ⟨h, h'⟩

theorem allLegal_flatMap {α : Type} {write : α → List Leaf} {items : List α}
    (h : ∀ item ∈ items, AllLegal (write item)) : AllLegal (items.flatMap write) := by
  intro leaf hleaf
  obtain ⟨item, hitem, hleaf⟩ := List.mem_flatMap.mp hleaf
  exact h item hitem leaf hleaf

/-- A name of the frame of a script. -/
theorem isLegal_of_mem_vocabulary (word : String) (h : word ∈ vocabulary) :
    (Leaf.name ⟨word⟩).IsLegal := isValid_of_mem_vocabulary word h

/-! ## Statements -/

/-- No arguments. -/
theorem allLegal_nothing : AllLegal (leavesOfExprs []) := allLegal_nil

/-- A text as an argument. -/
theorem allLegal_text (text : String) : AllLegal (leavesOfExprs [.str text]) :=
  AllLegal.cons trivial allLegal_nil

/-- A text as an argument that is passed under a name. -/
theorem allLegal_option (key text : String) :
    AllLegal (leavesOfExprs [.object [⟨key, .str text⟩]]) :=
  AllLegal.cons trivial (allLegal_text text)

section

variable {target : Expr} (htarget : AllLegal target.leaves) {args : List Expr}
  (hargs : AllLegal (leavesOfExprs args)) {method : String} (hmethod : method ∈ calledMethods)
  {stmt : Stmt}

include htarget hargs hmethod

/-- A call that is waited for. -/
theorem allLegal_of_awaited (h : awaited target method args = .ok stmt) : AllLegal stmt.leaves := by
  have hvalid := (of_mem_calledMethods method hmethod).1
  have hname : (Leaf.name ⟨method⟩).IsLegal := hvalid
  rw [awaited_eq_ok hvalid, Except.ok.injEq] at h
  subst h
  exact (htarget.append (allLegal_nil.cons hname)).append hargs

/-- A call on what is expected of a target. -/
theorem allLegal_of_expected (h : (do awaited (← expectation target) method args) = .ok stmt) :
    AllLegal stmt.leaves := by
  have hexpect := isLegal_of_mem_vocabulary "expect" (by simp [vocabulary])
  have hexpected : AllLegal (Expr.leaves (.call (.ident ⟨"expect"⟩) [target])) :=
    (htarget.append allLegal_nil).cons hexpect
  rw [expectation_eq_ok] at h
  exact allLegal_of_awaited hexpected hargs hmethod h

end

/-- **The statement of a step may be written down** when what it was given
may be. -/
theorem allLegal_of_statement {step : Step} {locator page : Expr}
    (hlocator : AllLegal locator.leaves) (hpage : AllLegal page.leaves) {stmt : Stmt} :
    statement step locator page = .ok stmt → AllLegal stmt.leaves := by
  have hargument := allLegal_text step.argumentText
  have hmatching : AllLegal (leavesOfExprs [.matching step.argumentText]) :=
    AllLegal.cons ⟨_, rfl⟩ allLegal_nil
  have hcomment : ∀ text, AllLegal (Stmt.leaves (.comment text)) :=
    fun _ => AllLegal.cons trivial allLegal_nil
  unfold statement
  cases step.action with
  | click => exact allLegal_of_awaited hlocator allLegal_nothing (by simp [calledMethods])
  | setValue => exact allLegal_of_awaited hlocator hargument (by simp [calledMethods])
  | clearText => exact allLegal_of_awaited hlocator (allLegal_text "") (by simp [calledMethods])
  | selectDropdown =>
    exact allLegal_of_awaited hlocator (allLegal_option _ _) (by simp [calledMethods])
  | uploadFile => exact allLegal_of_awaited hlocator hargument (by simp [calledMethods])
  | hover => exact allLegal_of_awaited hlocator allLegal_nothing (by simp [calledMethods])
  | scrollTo => exact allLegal_of_awaited hlocator allLegal_nothing (by simp [calledMethods])
  | waitForVisible =>
    exact allLegal_of_awaited hlocator (allLegal_option _ _) (by simp [calledMethods])
  | assertVisible => exact allLegal_of_expected hlocator allLegal_nothing (by simp [calledMethods])
  | assertText => exact allLegal_of_expected hlocator hargument (by simp [calledMethods])
  | assertEnabled => exact allLegal_of_expected hlocator allLegal_nothing (by simp [calledMethods])
  | assertDisabled => exact allLegal_of_expected hlocator allLegal_nothing (by simp [calledMethods])
  | assertTitle => exact allLegal_of_expected hpage hargument (by simp [calledMethods])
  | assertUrlContains => exact allLegal_of_expected hpage hmatching (by simp [calledMethods])
  | unknown =>
    intro h
    rw [← Except.ok.inj h]
    exact hcomment _
  | unsupported name =>
    intro h
    rw [← Except.ok.inj h]
    exact hcomment _

/-- What a method and a test find their object and its page by. -/
theorem allLegal_receiver {receiver : Receiver} (h : receiver ∈ [Receiver.own, Receiver.made]) :
    AllLegal receiver.self.leaves ∧ AllLegal receiver.page.leaves := by
  have hpage : AllLegal [.name ⟨"page"⟩] :=
    .cons (isLegal_of_mem_vocabulary "page" (by simp [vocabulary])) allLegal_nil
  have hpageObj : AllLegal [.name ⟨"pageObj"⟩] :=
    .cons (isLegal_of_mem_vocabulary "pageObj" (by simp [vocabulary])) allLegal_nil
  rcases List.mem_cons.mp h with rfl | h
  · exact ⟨allLegal_nil, hpage⟩
  · obtain rfl := List.mem_singleton.mp h
    exact ⟨hpageObj, hpage⟩

/-- A statement that reads a getter, in a method or in a test. -/
theorem allLegal_of_received {receiver : Receiver} (h : receiver ∈ [Receiver.own, Receiver.made])
    {getter : Identifier} (hgetter : getter.isValid = true) {step : Step} {stmt : Stmt}
    (hstmt : statement step (.member receiver.self getter) receiver.page = .ok stmt) :
    AllLegal stmt.leaves := by
  obtain ⟨hself, hpage⟩ := allLegal_receiver h
  have hname : (Leaf.name getter).IsLegal := hgetter
  have hlocator : AllLegal (Expr.member receiver.self getter).leaves :=
    hself.append (.cons hname allLegal_nil)
  exact allLegal_of_statement hlocator hpage hstmt

/-! ## Modules -/

section

variable {plan : Plan} (hplan : plan.IsSound)

include hplan

/-- The statements of a method, as they stand in the method and as they
stand in its test. -/
theorem allLegal_of_isMethodOf {method : Method} {member : Member}
    (h : IsMethodOf plan method member) :
    AllLegal (leavesOfStmts member.body)
      ∧ AllLegal (leavesOfStmts (member.body.map (Stmt.redirect .made))) := by
  rw [leavesOfStmts_eq_flatMap, leavesOfStmts_eq_flatMap, List.flatMap_map]
  refine ⟨allLegal_flatMap fun stmt hstmt => ?_, allLegal_flatMap fun stmt hstmt => ?_⟩
  · obtain ⟨step, -, hdoes⟩ := exists_mem_of_forall₂ h.does.flip hstmt
    exact allLegal_of_received (by simp) (hplan.isValid_accessor _) hdoes.own
  · obtain ⟨step, -, hdoes⟩ := exists_mem_of_forall₂ h.does.flip hstmt
    exact allLegal_of_received (by simp) (hplan.isValid_accessor _) hdoes.made

/-- The locators of a getter are texts. -/
theorem allLegal_getterOf {accessor : Accessor} (ha : accessor ∈ plan.accessors) :
    AllLegal (getterOf accessor).leaves := by
  have hname : (Leaf.memberName accessor.name).IsLegal := hplan.accessors accessor ha
  have hchain := isLegal_of_mem_vocabulary "getLocatorChain" (by simp [vocabulary])
  have hlocators : AllLegal (leavesOfExprs (accessor.locators.map .str)) := by
    rw [leavesOfExprs_eq_flatMap, List.flatMap_map]
    exact allLegal_flatMap fun _ _ => AllLegal.cons trivial allLegal_nil
  exact .cons hname (((AllLegal.cons hchain allLegal_nil).append
    (hlocators.append allLegal_nil)).append allLegal_nil)

omit hplan in
theorem allLegal_openOverride (path : String) : AllLegal (openOverride path).leaves := by
  have hopen := isLegal_of_mem_vocabulary "open" (by simp [vocabulary])
  have hpath := isLegal_of_mem_vocabulary "pathSegment" (by simp [vocabulary])
  have hname : (Leaf.memberName ⟨"open"⟩).IsLegal := hopen
  have hstring : (Leaf.string path).IsLegal := trivial
  exact .cons hname (.cons hpath (.cons hstring (.cons hopen (.cons hpath allLegal_nil))))

variable {methods : List Member} (h : List.Forall₂ (IsMethodOf plan) plan.methods methods)

include h

/-- **The class of a page object may be written down.** -/
theorem allLegal_classOf : AllLegal (classOf plan methods).leaves := by
  have hclass : (Leaf.name ⟨plan.className⟩).IsLegal := hplan.className
  have hPage := isLegal_of_mem_vocabulary "Page" (by simp [vocabulary])
  have hpage := isLegal_of_mem_vocabulary "page" (by simp [vocabulary])
  have hmembers : AllLegal (leavesOfMembers (classOf plan methods).members) := by
    rw [leavesOfMembers_eq_flatMap]
    refine allLegal_flatMap fun member hm => ?_
    rcases List.mem_append.mp hm with hm | hm
    · rcases List.mem_append.mp hm with hm | hm
      · obtain ⟨accessor, ha, rfl⟩ := List.mem_map.mp hm
        exact allLegal_getterOf hplan ha
      · obtain ⟨method, hmethod, hof⟩ := exists_mem_of_forall₂ h.flip hm
        have hbody := (allLegal_of_isMethodOf hplan hof).1
        obtain ⟨name, kind, isAsync, params, body⟩ := member
        obtain ⟨rfl, ⟨-, -, rfl⟩, -⟩ := hof
        exact .cons (hplan.methods method hmethod) (allLegal_nil.append hbody)
    · rw [List.mem_singleton.mp hm]
      exact allLegal_openOverride _
  have hhead : AllLegal (headLeaves ⟨plan.className⟩ (some ⟨"Page"⟩)) :=
    .cons hclass (.cons hPage allLegal_nil)
  have hmaker : AllLegal [.name ⟨"page"⟩, .name ⟨"page"⟩] :=
    .cons hpage (.cons hpage allLegal_nil)
  exact hhead.append (hmaker.append hmembers)

/-- **The module of a page object may be written down.** -/
theorem isLegal_pageModuleOf (base : String) : (pageModuleOf base plan methods).IsLegal := by
  have hclass : (Leaf.name ⟨plan.className⟩).IsLegal := hplan.className
  have hexpect := isLegal_of_mem_vocabulary "expect" (by simp [vocabulary])
  have hPage := isLegal_of_mem_vocabulary "Page" (by simp [vocabulary])
  have hrequire := isLegal_of_mem_vocabulary "require" (by simp [vocabulary])
  have hmodule := isLegal_of_mem_vocabulary "module" (by simp [vocabulary])
  have hexports := isLegal_of_mem_vocabulary "exports" (by simp [vocabulary])
  have hfront : AllLegal [.comment (provenance base), .name ⟨"expect"⟩, .name ⟨"require"⟩,
      .string "@playwright/test", .name ⟨"Page"⟩, .name ⟨"require"⟩, .string "./page"] :=
    .cons trivial (.cons hexpect (.cons hrequire (.cons trivial (.cons hPage (.cons hrequire
      (.cons trivial allLegal_nil))))))
  have hback : AllLegal [.name ⟨"module"⟩, .name ⟨"exports"⟩, .name ⟨plan.className⟩] :=
    .cons hmodule (.cons hexports (.cons hclass allLegal_nil))
  exact hfront.append ((allLegal_classOf hplan h).append hback)

/-- The tests of methods. -/
theorem allLegal_tests :
    AllLegal (leavesOfStmts ((methods.map (testOf ⟨plan.className⟩)).map Test.toStmt)) := by
  have hclass : (Leaf.name ⟨plan.className⟩).IsLegal := hplan.className
  have htest := isLegal_of_mem_vocabulary "test" (by simp [vocabulary])
  have hpage := isLegal_of_mem_vocabulary "page" (by simp [vocabulary])
  have hpageObj := isLegal_of_mem_vocabulary "pageObj" (by simp [vocabulary])
  have hopen := isLegal_of_mem_vocabulary "open" (by simp [vocabulary])
  rw [leavesOfStmts_eq_flatMap, List.map_map, List.flatMap_map]
  refine allLegal_flatMap fun member hm => ?_
  obtain ⟨method, -, hof⟩ := exists_mem_of_forall₂ h.flip hm
  have hbody := (allLegal_of_isMethodOf hplan hof).2
  have hstart : AllLegal [.name ⟨"pageObj"⟩, .name ⟨plan.className⟩, .name ⟨"page"⟩,
      .name ⟨"pageObj"⟩, .name ⟨"open"⟩] :=
    .cons hpageObj (.cons hclass (.cons hpage (.cons hpageObj (.cons hopen allLegal_nil))))
  have harrow : AllLegal (.name ⟨"page"⟩ :: leavesOfStmts
      (testOf ⟨plan.className⟩ member).body) := .cons hpage (hstart.append hbody)
  have htitle : (Leaf.string member.name.text).IsLegal := trivial
  exact .cons htest (.cons htitle (harrow.append allLegal_nil))

/-- **The module of a test script may be written down.** -/
theorem isLegal_specModuleOf (base : String) : (specModuleOf base plan methods).IsLegal := by
  have hclass : (Leaf.name ⟨plan.className⟩).IsLegal := hplan.className
  have hexpect := isLegal_of_mem_vocabulary "expect" (by simp [vocabulary])
  have htest := isLegal_of_mem_vocabulary "test" (by simp [vocabulary])
  have hdescribe := isLegal_of_mem_vocabulary "describe" (by simp [vocabulary])
  have hrequire := isLegal_of_mem_vocabulary "require" (by simp [vocabulary])
  have hfront : AllLegal [.comment (provenance base), .name ⟨"test"⟩, .name ⟨"expect"⟩,
      .name ⟨"require"⟩, .string "@playwright/test", .name ⟨plan.className⟩, .name ⟨"require"⟩,
      .string ("../pageobjects/" ++ base ++ ".page"), .name ⟨"test"⟩, .name ⟨"describe"⟩,
      .string (specTitle base)] :=
    .cons trivial (.cons htest (.cons hexpect (.cons hrequire (.cons trivial (.cons hclass
      (.cons hrequire (.cons trivial (.cons htest (.cons hdescribe
        (.cons trivial allLegal_nil))))))))))
  have htests : AllLegal (leavesOfStmts
      (((methods.map (testOf ⟨plan.className⟩)).map Test.toStmt).intersperse .blank)) := by
    rw [leavesOfStmts_intersperse_blank]
    exact allLegal_tests hplan h
  exact hfront.append ((htests.append allLegal_nil).append allLegal_nil)

end

/-! ## Generated scripts -/

/-- **Scripts are scanned as they were meant, whatever text they carry.**
This is so with every module whose names are legal and whose regular
expressions match some text literally; and both modules that are generated
for a feature are such modules, whatever its name and its map. -/
theorem scripts_are_lexicallySound :
    (∀ m : Module, m.IsLegal → m.IsLexicallySound)
      ∧ ∀ (nouns : NounFinder) (base : String) (map : StepMap), ∃ page spec,
        pageModule base (Plan.of nouns base map) = .ok page
        ∧ specModule base (Plan.of nouns base map) = .ok spec
        ∧ generate nouns base map = .ok ⟨page.write, spec.write⟩
        ∧ page.IsLegal ∧ spec.IsLegal := by
  refine ⟨fun _ h => Module.isLexicallySound h, fun nouns base map => ?_⟩
  have hplan := Plan.isSound_of nouns base map
  obtain ⟨methods, h⟩ := exists_methods hplan
  exact ⟨_, _, pageModule_eq_ok hplan h base, specModule_eq_ok hplan h base,
    generate_eq_ok nouns base map h, isLegal_pageModuleOf hplan h base,
    isLegal_specModuleOf hplan h base⟩

/-- A script whose texts try to leave their literals: a comment of two
lines, a string and a key that hold quotes and line ends, and a regular
expression that holds slashes. -/
def awkwardScript : Module := ⟨[
  .comment "one\u2028/* two",
  .expr (.call (.ident ⟨"f"⟩) [
    .str "\"); \n\\",
    .object [⟨"a\"b", .matching "/)]\r"⟩]])]⟩

/-- It is scanned as it was meant. -/
theorem awkwardScript_is_lexicallySound : awkwardScript.IsLexicallySound := by
  refine scripts_are_lexicallySound.1 awkwardScript ?_
  have hname : (Leaf.name ⟨"f"⟩).IsLegal := show Identifier.isValid ⟨"f"⟩ = true by decide
  have hregex : (Leaf.regex (regexBody "/)]\r")).IsLegal := ⟨_, rfl⟩
  exact AllLegal.cons trivial (.cons hname (.cons trivial (.cons trivial
    (.cons hregex allLegal_nil))))

end Playscript.Page
