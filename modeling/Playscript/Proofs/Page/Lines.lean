import Playscript.Proofs.Page.Legal
import Playscript.Proofs.Script.Lines

/-!
# One step, one line

Whatever a step says, its statement is written as one line: code that is
waited for, or a comment that names an action there is no code for. So what is
written for a scenario can be counted. The body of its method has a line for
each step, and the body of its test has two more, which make the page object
and open it (`steps_written_in_lines`).

Code is kept on its line by the literals, which replace the line ends of the
texts they hold. A comment has no such protection. It is the name of the
action that is escaped before the comment is made of it, as if the comment
were a string; without that, a name that holds a line end would go on as code
on the next line.
-/

namespace Playscript.Page

open Script

/-! ## The statement of a step -/

/-- **Code that is waited for**, with no function in it. -/
def IsCode (stmt : Stmt) : Prop := ∃ call, stmt = .expr (.await call) ∧ call.isInline = true

/-- **What the statement of an action is**: code, or a comment. -/
structure IsStatementOf (action : Action) (stmt : Stmt) : Prop where
  /-- There is code for actions that are supported. -/
  code : action.isSupported = true → IsCode stmt
  /-- Of any other there is nothing but a comment. -/
  marker : action.isSupported = false → stmt = .comment (unsupportedComment action)

section

variable {target : Expr} (htarget : target.isInline = true) {args : List Expr}
  (hargs : areInline args = true) {method : String} (hmethod : method ∈ calledMethods)
  {action : Action} (haction : action.isSupported = true) {stmt : Stmt}

include htarget hargs hmethod haction

/-- A call that is waited for. -/
theorem isStatementOf_of_awaited (h : awaited target method args = .ok stmt) :
    IsStatementOf action stmt := by
  rw [awaited_eq_ok (of_mem_calledMethods method hmethod).1, Except.ok.injEq] at h
  subst h
  refine ⟨fun _ => ⟨_, rfl, Bool.and_eq_true_iff.mpr ⟨htarget, hargs⟩⟩, fun hnone => ?_⟩
  exact absurd (haction.symm.trans hnone) Bool.noConfusion

/-- A call on what is expected of a target. -/
theorem isStatementOf_of_expected (h : (do awaited (← expectation target) method args) = .ok stmt) :
    IsStatementOf action stmt := by
  rw [expectation_eq_ok] at h
  have hexpected : (Expr.call (.ident ⟨"expect"⟩) [target]).isInline = true := by
    rw [Expr.isInline, areInline, htarget]
    rfl
  exact isStatementOf_of_awaited hexpected hargs hmethod haction h

end

/-- **Every statement of a step is code or a comment**, by the action of the
step. -/
theorem isStatementOf_statement {step : Step} {locator page : Expr}
    (hlocator : locator.isInline = true) (hpage : page.isInline = true) {stmt : Stmt} :
    statement step locator page = .ok stmt → IsStatementOf step.action stmt := by
  unfold statement
  cases step.action with
  | click => exact isStatementOf_of_awaited hlocator rfl (by simp [calledMethods]) rfl
  | setValue => exact isStatementOf_of_awaited hlocator rfl (by simp [calledMethods]) rfl
  | clearText => exact isStatementOf_of_awaited hlocator rfl (by simp [calledMethods]) rfl
  | selectDropdown => exact isStatementOf_of_awaited hlocator rfl (by simp [calledMethods]) rfl
  | uploadFile => exact isStatementOf_of_awaited hlocator rfl (by simp [calledMethods]) rfl
  | hover => exact isStatementOf_of_awaited hlocator rfl (by simp [calledMethods]) rfl
  | scrollTo => exact isStatementOf_of_awaited hlocator rfl (by simp [calledMethods]) rfl
  | waitForVisible => exact isStatementOf_of_awaited hlocator rfl (by simp [calledMethods]) rfl
  | assertVisible => exact isStatementOf_of_expected hlocator rfl (by simp [calledMethods]) rfl
  | assertText => exact isStatementOf_of_expected hlocator rfl (by simp [calledMethods]) rfl
  | assertEnabled => exact isStatementOf_of_expected hlocator rfl (by simp [calledMethods]) rfl
  | assertDisabled => exact isStatementOf_of_expected hlocator rfl (by simp [calledMethods]) rfl
  | assertTitle => exact isStatementOf_of_expected hpage rfl (by simp [calledMethods]) rfl
  | assertUrlContains => exact isStatementOf_of_expected hpage rfl (by simp [calledMethods]) rfl
  | unknown =>
    exact fun h => ⟨fun hcode => absurd hcode Bool.false_ne_true, fun _ => (Except.ok.inj h).symm⟩
  | unsupported name =>
    exact fun h => ⟨fun hcode => absurd hcode Bool.false_ne_true, fun _ => (Except.ok.inj h).symm⟩

/-! ## The line of a step -/

/-- The line of an action there is no code for. -/
def markerLine (depth : Nat) (action : Action) : List Char :=
  indent depth ++ ("// ⚠️ Unsupported action: ".toList ++ escape action.name.toList) ++ ['\n']

/-- **A text is the line of an action.** -/
structure IsLineOf (depth : Nat) (action : Action) (text : List Char) : Prop where
  /-- It is one line. -/
  line : IsLine text
  /-- There is code on it if the action is supported. -/
  code : action.isSupported = true →
    ∃ call, text = indent depth ++ "await ".toList ++ call ++ ";\n".toList
  /-- Otherwise it is nothing but a comment, which names the action. -/
  marker : action.isSupported = false → text = markerLine depth action

theorem toList_unsupportedComment (action : Action) :
    (unsupportedComment action).toList
      = "⚠️ Unsupported action: ".toList ++ escape action.name.toList :=
  String.toList_append.trans (congrArg _ String.toList_ofList)

/-- **The name of an action cannot end the comment it is in.** -/
theorem isUnbroken_unsupportedComment (action : Action) :
    IsUnbroken (unsupportedComment action).toList := by
  have hfront : IsUnbroken "⚠️ Unsupported action: ".toList := by decide
  rw [toList_unsupportedComment]
  exact hfront.append fun _ => isLineEnd_of_mem_escape

/-- The line that such a comment is written on. -/
theorem writeStmt_unsupportedComment (depth : Nat) (action : Action) :
    writeStmt depth (.comment (unsupportedComment action)) = markerLine depth action := by
  have hfront : "// ".toList ++ "⚠️ Unsupported action: ".toList
      = "// ⚠️ Unsupported action: ".toList := by decide
  show indent depth ++ writeComment depth _ ++ ['\n'] = _
  rw [writeComment_of_forall depth (isUnbroken_unsupportedComment action),
    toList_unsupportedComment, ← List.append_assoc "// ".toList, hfront, markerLine]

/-- **The statement of an action is written as its line.** -/
theorem IsStatementOf.isLineOf {action : Action} {stmt : Stmt} (h : IsStatementOf action stmt)
    (hlegal : AllLegal stmt.leaves) (depth : Nat) :
    IsLineOf depth action (writeStmt depth stmt) := by
  cases haction : action.isSupported with
  | true =>
    obtain ⟨call, rfl, hcall⟩ := h.code haction
    refine ⟨isLine_writeStmt depth hcall hlegal, fun _ => ⟨writeExpr depth call, ?_⟩,
      fun hnone => absurd (haction.symm.trans hnone) Bool.noConfusion⟩
    show indent depth ++ ("await ".toList ++ writeExpr depth call) ++ ";\n".toList = _
    rw [← List.append_assoc]
  | false =>
    obtain rfl := h.marker haction
    have hinline : (Stmt.comment (unsupportedComment action)).isInline = true :=
      decide_eq_true (isUnbroken_unsupportedComment action)
    exact ⟨isLine_writeStmt depth hinline hlegal,
      fun hsome => absurd (haction.symm.trans hsome) Bool.noConfusion,
      fun _ => writeStmt_unsupportedComment depth action⟩

/-- **A step is written as a line** in a method and in a test. -/
theorem isLineOf_writeStmt {receiver : Receiver} (h : receiver ∈ [Receiver.own, Receiver.made])
    {getter : Identifier} (hgetter : getter.isValid = true) {step : Step} {stmt : Stmt}
    (hstmt : statement step (.member receiver.self getter) receiver.page = .ok stmt)
    (depth : Nat) : IsLineOf depth step.action (writeStmt depth stmt) := by
  have hinline : (Expr.member receiver.self getter).isInline = true
      ∧ receiver.page.isInline = true := by
    rcases List.mem_cons.mp h with rfl | h
    · exact ⟨rfl, rfl⟩
    · obtain rfl := List.mem_singleton.mp h
      exact ⟨rfl, rfl⟩
  exact (isStatementOf_statement hinline.1 hinline.2 hstmt).isLineOf
    (allLegal_of_received h hgetter hstmt) depth

/-! ## The lines of a scenario -/

/-- The method of a scenario, as it stands in the class with some lines for a
body. -/
def methodText (name : Identifier) (lines : List (List Char)) : List Char :=
  indent 1 ++ "async ".toList ++ name.text.toList ++ "() \x7b\n".toList ++ lines.flatten
    ++ indent 1 ++ "\x7d\n".toList

/-- The lines that make a page object and open it. -/
def openingLines (className : String) : List (List Char) := [
  indent 2 ++ "const pageObj = new ".toList ++ className.toList ++ "(page);\n".toList,
  indent 2 ++ "await pageObj.open();\n".toList]

/-- The test of a scenario, as it stands in the suite with some lines for a
body. -/
def testText (name : Identifier) (lines : List (List Char)) : List Char :=
  indent 1 ++ "test(".toList ++ quote name.text ++ ", async (\x7b page \x7d) => \x7b\n".toList
    ++ lines.flatten ++ indent 1 ++ "\x7d);\n".toList

/-- The method of a scenario is written around the lines of its statements. -/
theorem writeMember_method (name : Identifier) (body : List Stmt) :
    writeMember 1 ⟨name, .method, true, [], body⟩
      = methodText name (body.map (writeStmt 2)) := by
  rw [methodText, ← writeStmts_eq_flatten]
  show indent 1 ++ "async ".toList ++ [] ++ name.text.toList ++ '(' :: ([] ++ ") \x7b\n".toList)
    ++ writeStmts 2 body ++ indent 1 ++ "\x7d\n".toList = _
  rw [List.append_nil]
  rfl

/-- The page object is made and opened on the first two lines of a test. -/
theorem map_writeStmt_testOf (className : String) (method : Member) :
    (testOf ⟨className⟩ method).body.map (writeStmt 2) = openingLines className
      ++ (method.body.map (Stmt.redirect .made)).map (writeStmt 2) := by
  have hmade : indent 2 ++ "const ".toList ++ "pageObj".toList ++ " = ".toList
      ++ ("new ".toList ++ className.toList ++ '(' :: ("page".toList ++ [')'])) ++ ";\n".toList
      = indent 2 ++ "const pageObj = new ".toList ++ className.toList ++ "(page);\n".toList := by
    simp only [List.append_assoc]
    rfl
  refine congrArg₂ List.cons hmade (congrArg₂ List.cons ?_ rfl)
  rfl

/-- **The test of a scenario is written around the lines of its body.** -/
theorem writeStmt_testOf (className : String) (method : Member) :
    writeStmt 1 (testOf ⟨className⟩ method).toStmt
      = testText method.name (openingLines className
        ++ (method.body.map (Stmt.redirect .made)).map (writeStmt 2)) := by
  rw [testText, ← map_writeStmt_testOf, ← writeStmts_eq_flatten]
  show indent 1 ++ ("test".toList ++ '(' :: (quote method.name.text ++ ", ".toList
    ++ ("async ".toList ++ '(' :: ("\x7b page \x7d".toList ++ ") => ".toList) ++ "\x7b\n".toList
      ++ writeStmts 2 (testOf ⟨className⟩ method).body ++ indent 1 ++ ['\x7d']) ++ [')']))
    ++ ";\n".toList = _
  simp only [List.append_assoc, List.cons_append]
  rfl

/-- The suite is written around its tests. -/
theorem writeStmt_suiteOf (title : String) (tests : List Test) :
    writeStmt 0 (suiteOf title tests)
      = "test.describe(".toList ++ quote title ++ ", () => \x7b\n".toList
        ++ writeStmts 1 ((tests.map Test.toStmt).intersperse .blank) ++ "\x7d);\n".toList := by
  show [] ++ ("test".toList ++ '.' :: "describe".toList ++ '(' :: (quote title ++ ", ".toList
    ++ ([] ++ '(' :: ([] ++ ") => ".toList) ++ "\x7b\n".toList ++ writeStmts 1 _ ++ []
      ++ ['\x7d']) ++ [')'])) ++ ";\n".toList = _
  simp only [List.append_assoc, List.cons_append]
  rfl

/-! ## The two modules -/

section

variable (base : String) (plan : Plan) {methods : List Member} {method : Member}
  (h : method ∈ methods)

include h

/-- **The methods stand in the page object.** -/
theorem infix_pageObject :
    writeMember 1 method <:+: (pageModuleOf base plan methods).write.toList := by
  have hmember : method ∈ (classOf plan methods).members :=
    List.mem_append_left _ (List.mem_append_right _ h)
  have hclass : Stmt.classDecl (classOf plan methods)
      ∈ (pageModuleOf base plan methods).statements := by
    simp [pageModuleOf]
  rw [Module.write, String.toList_ofList]
  refine (infix_writeClass 0 hmember).trans (.trans ?_ (infix_writeStmts 0 hclass))
  exact List.infix_append (indent 0) _ ['\n']

/-- **The tests stand in the test script.** -/
theorem infix_testSpec : writeStmt 1 (testOf ⟨plan.className⟩ method).toStmt
    <:+: (specModuleOf base plan methods).write.toList := by
  have htest : (testOf ⟨plan.className⟩ method).toStmt
      ∈ (((methods.map (testOf ⟨plan.className⟩)).map Test.toStmt).intersperse .blank) :=
    (sublist_intersperse _ _).subset (List.mem_map_of_mem (List.mem_map_of_mem h))
  have hsuite : suiteOf (specTitle base) (methods.map (testOf ⟨plan.className⟩))
      ∈ (specModuleOf base plan methods).statements :=
    List.mem_append_right _ (List.mem_singleton_self _)
  rw [Module.write, String.toList_ofList]
  refine (infix_writeStmts 1 htest).trans (.trans ?_ (infix_writeStmts 0 hsuite))
  rw [writeStmt_suiteOf]
  exact List.infix_append _ _ _

end

/-- **A scenario is written line by line**, in a method and in a test. -/
structure IsWrittenInLines (units : Units) (className : String) (scenario : String × List Step)
    (method : Method) : Prop where
  /-- The body of the method has a line for each step. -/
  inMethod : ∃ lines, List.Forall₂ (fun step => IsLineOf 2 step.action) scenario.2 lines
    ∧ lineCount lines.flatten = scenario.2.length
    ∧ methodText method.name lines <:+: units.pageObject.toList
  /-- The body of the test has two more in front of them. -/
  inTest : ∃ lines, List.Forall₂ (fun step => IsLineOf 2 step.action) scenario.2 lines
    ∧ lineCount (openingLines className ++ lines).flatten = scenario.2.length + 2
    ∧ testText method.name (openingLines className ++ lines) <:+: units.testSpec.toList

/-- The first lines of a test are two. -/
theorem isLine_openingLines {className : String} (h : (Identifier.mk className).isValid = true) :
    ∀ line ∈ openingLines className, IsLine line := by
  have hmade : IsUnbroken "const pageObj = new ".toList := by decide
  have hpage : IsUnbroken "(page)".toList := by decide
  have hopened : IsUnbroken "await pageObj.open()".toList := by decide
  have hindent := isUnbroken_indent 2
  have hfirst := (((hindent.append hmade).append (isUnbroken_name h)).append hpage).ended
  have hsecond := (hindent.append hopened).ended
  rw [List.append_assoc] at hfirst hsecond
  exact List.forall_mem_cons.mpr ⟨hfirst, List.forall_mem_singleton.mpr hsecond⟩

/-- The lines of steps, counted. -/
theorem lineCount_of_forall₂ {steps : List Step} {lines : List (List Char)} {depth : Nat}
    (h : List.Forall₂ (fun step => IsLineOf depth step.action) steps lines) :
    (∀ line ∈ lines, IsLine line) ∧ lines.length = steps.length := by
  refine ⟨fun line hline => ?_, h.length_eq.symm⟩
  obtain ⟨step, -, hof⟩ := exists_mem_of_forall₂ h.flip hline
  exact hof.line

/-- **The scenario of a method is written line by line.** -/
theorem isWrittenInLines {plan : Plan} (hplan : plan.IsSound) (base : String)
    {methods : List Member} {member : Member} (hm : member ∈ methods) {method : Method}
    (hof : IsMethodOf plan method member) {scenario : String × List Step}
    (hsteps : method.steps = scenario.2) :
    IsWrittenInLines
      ⟨(pageModuleOf base plan methods).write, (specModuleOf base plan methods).write⟩
      plan.className scenario method := by
  have hown : List.Forall₂ (fun step => IsLineOf 2 step.action) scenario.2
      (member.body.map (writeStmt 2)) := by
    rw [← hsteps, List.forall₂_map_right_iff]
    exact hof.does.imp fun step _ hdoes =>
      isLineOf_writeStmt (by simp) (hplan.isValid_accessor step.selectorName) hdoes.own 2
  have hmade : List.Forall₂ (fun step => IsLineOf 2 step.action) scenario.2
      ((member.body.map (Stmt.redirect .made)).map (writeStmt 2)) := by
    rw [← hsteps, List.map_map, List.forall₂_map_right_iff]
    exact hof.does.imp fun step _ hdoes =>
      isLineOf_writeStmt (by simp) (hplan.isValid_accessor step.selectorName) hdoes.made 2
  constructor
  · obtain ⟨hlines, hlength⟩ := lineCount_of_forall₂ hown
    refine ⟨_, hown, (lineCount_flatten hlines).trans hlength, ?_⟩
    have hinfix := infix_pageObject base plan hm
    obtain ⟨name, kind, isAsync, params, body⟩ := member
    obtain ⟨rfl, ⟨rfl, rfl, rfl⟩, -⟩ := hof
    rwa [writeMember_method] at hinfix
  · obtain ⟨hlines, hlength⟩ := lineCount_of_forall₂ hmade
    have hopening := isLine_openingLines hplan.className
    refine ⟨_, hmade, ?_, ?_⟩
    · rw [lineCount_flatten (List.forall_mem_append.mpr ⟨hopening, hlines⟩),
        List.length_append, hlength]
      exact Nat.add_comm _ _
    · have hinfix := infix_testSpec base plan hm
      rwa [writeStmt_testOf, hof.name_eq] at hinfix

/-- **One step, one line.** A step has a statement in a method and in a test,
whatever its action, its argument and the name of its element; and this is
written as one line at any depth, a comment if there is no code for the action.
So in the scripts of a map the body of the method of a scenario has a line for
each step, and the body of its test has two more. -/
theorem steps_written_in_lines (nouns : NounFinder) (base : String) (map : StepMap) :
    (∀ (step : Step), ∀ receiver ∈ [Receiver.own, Receiver.made], ∃ stmt,
      statement step (.member receiver.self
        ((Plan.of nouns base map).accessor step.selectorName)) receiver.page = .ok stmt
      ∧ ∀ depth, IsLineOf depth step.action (writeStmt depth stmt))
    ∧ ∃ units, generate nouns base map = .ok units
      ∧ ((Plan.of nouns base map).methods.map (·.name.text)).Nodup
      ∧ List.Forall₂ (IsWrittenInLines units (classNameOf base)) map.scenarios
        (Plan.of nouns base map).methods := by
  have hplan := Plan.isSound_of nouns base map
  obtain ⟨methods, h⟩ := exists_methods hplan
  refine ⟨fun step receiver hreceiver => ?_, _, generate_eq_ok nouns base map h, ?_, ?_⟩
  · obtain ⟨stmt, hstmt, -⟩ := statement_redirect .made step (.member receiver.self
      ((Plan.of nouns base map).accessor step.selectorName)) receiver.page
    exact ⟨stmt, hstmt, isLineOf_writeStmt hreceiver (hplan.isValid_accessor _) hstmt⟩
  · exact (List.nodup_append.mp (List.nodup_append.mp hplan.nodup).1).2.1
  · rw [← Plan.className_of nouns base map]
    have hmembers : ∀ method ∈ (Plan.of nouns base map).methods, ∃ member ∈ methods,
        IsMethodOf (Plan.of nouns base map) method member :=
      fun _ hm => exists_mem_of_forall₂ h hm
    have hfor := (List.forall₂_and_left _ _).mpr
      ⟨hmembers, (Plan.forall₂_methods nouns base map).flip⟩
    refine (hfor.imp ?_).flip
    rintro method scenario ⟨⟨member, hm, hof⟩, hfor⟩
    exact isWrittenInLines hplan base hm hof hfor.steps_eq

end Playscript.Page
