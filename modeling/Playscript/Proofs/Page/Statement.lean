import Playscript.Page.Statement
import Playscript.Proofs.Script.Build
import Playscript.Proofs.Script.Receiver

/-!
# The statement of a step, on any object

That every step has a statement is one case per action; in each of them the
statement is put together with fixed words and cannot fail.

The statement is built around the expressions for the element and for the
page, and does nothing with them but put them in. So the statement for
other expressions is the same statement with those put in instead
(`statement_redirect`). Whether an action uses the element or the page is a
matter of the case, and no proof outside this module needs to know which. What
comes of it in a method is said by `readsOf`: the statement reads its getter or
the page, and no other member of `this`.
-/

namespace Playscript.Page

open Script

/-- The methods that statements of steps call. -/
def calledMethods : List String := [
  "click", "fill", "selectOption", "setInputFiles", "hover", "scrollIntoViewIfNeeded", "waitFor",
  "toBeVisible", "toHaveText", "toBeEnabled", "toBeDisabled", "toHaveTitle", "toHaveURL"]

/-- They have legal names, and none of them is called `page`. -/
theorem of_mem_calledMethods (method : String) (h : method ∈ calledMethods) :
    (Identifier.mk method).isValid = true ∧ method ≠ "page" := by
  have hall : ∀ method ∈ calledMethods,
      (Identifier.mk method).isValid = true ∧ method ≠ "page" := by decide
  exact hall method h

/-! ## Calls that are waited for -/

theorem awaited_eq_ok {method : String} (h : (Identifier.mk method).isValid = true)
    (target : Expr) (args : List Expr) :
    awaited target method args = .ok (.expr (.await (.call (.member target ⟨method⟩) args))) := by
  rw [awaited, Expr.invoke_eq_ok h]
  rfl

theorem expectation_eq_ok (target : Expr) :
    expectation target = .ok (.call (.ident ⟨"expect"⟩) [target]) := by
  rw [expectation, Expr.named_eq_ok (isValid_of_mem_vocabulary "expect" (by simp [vocabulary]))]
  rfl

/-- A call on one target is the call on another, with the other put in. -/
theorem awaited_redirect (other : Receiver) {method : String} (h : method ∈ calledMethods)
    (target : Expr) (args : List Expr) :
    ∃ stmt, awaited target method args = .ok stmt
      ∧ awaited (target.redirect other) method (redirectExprs other args)
        = .ok (stmt.redirect other) := by
  obtain ⟨hvalid, hpage⟩ := of_mem_calledMethods method h
  refine ⟨_, awaited_eq_ok hvalid target args, ?_⟩
  rw [awaited_eq_ok hvalid, Stmt.redirect, Expr.redirect, Expr.redirect,
    redirect_member other target hpage]

/-- The same for a call on what is expected of a target. -/
theorem expected_redirect (other : Receiver) {method : String} (h : method ∈ calledMethods)
    (target : Expr) (args : List Expr) :
    ∃ stmt, (do awaited (← expectation target) method args) = .ok stmt
      ∧ (do awaited (← expectation (target.redirect other)) method (redirectExprs other args))
        = .ok (stmt.redirect other) := by
  rw [expectation_eq_ok, expectation_eq_ok]
  exact awaited_redirect other h (.call (.ident ⟨"expect"⟩) [target]) args

/-! ## Statements -/

/-- **A step has a statement on any object, and the statement on another
object is that statement with the other object put in.** -/
theorem statement_redirect (other : Receiver) (step : Step) (locator page : Expr) :
    ∃ stmt, statement step locator page = .ok stmt
      ∧ statement step (locator.redirect other) (page.redirect other)
        = .ok (stmt.redirect other) := by
  unfold statement
  -- the arguments hold texts only, so putting another object in leaves them
  cases step.action with
  | click => exact awaited_redirect other (by simp [calledMethods]) locator []
  | setValue =>
    exact awaited_redirect other (by simp [calledMethods]) locator [.str step.argumentText]
  | clearText => exact awaited_redirect other (by simp [calledMethods]) locator [.str ""]
  | selectDropdown =>
    exact awaited_redirect other (by simp [calledMethods]) locator
      [.object [⟨"label", .str step.argumentText⟩]]
  | uploadFile =>
    exact awaited_redirect other (by simp [calledMethods]) locator [.str step.argumentText]
  | hover => exact awaited_redirect other (by simp [calledMethods]) locator []
  | scrollTo => exact awaited_redirect other (by simp [calledMethods]) locator []
  | waitForVisible =>
    exact awaited_redirect other (by simp [calledMethods]) locator
      [.object [⟨"state", .str "visible"⟩]]
  | assertVisible => exact expected_redirect other (by simp [calledMethods]) locator []
  | assertText =>
    exact expected_redirect other (by simp [calledMethods]) locator [.str step.argumentText]
  | assertEnabled => exact expected_redirect other (by simp [calledMethods]) locator []
  | assertDisabled => exact expected_redirect other (by simp [calledMethods]) locator []
  | assertTitle =>
    exact expected_redirect other (by simp [calledMethods]) page [.str step.argumentText]
  | assertUrlContains =>
    exact expected_redirect other (by simp [calledMethods]) page [Expr.matching step.argumentText]
  | unknown => exact ⟨_, rfl, rfl⟩
  | unsupported name => exact ⟨_, rfl, rfl⟩

/-! ## What is read -/

/-- **What a step reads of the object it is done on**: the getter of its element,
or the page where the page is what it speaks of; nothing where there is no code
for its action. -/
def readsOf (getter : Identifier) : Action → List Identifier
  | .assertTitle | .assertUrlContains => [⟨"page"⟩]
  | .unknown | .unsupported _ => []
  | _ => [getter]

section

variable {target : Expr} {args : List Expr} {method : String} {stmt : Stmt}

/-- A call reads what its target and its arguments read. -/
theorem ownReads_of_awaited (htarget : target.isThis = false) (hmethod : method ∈ calledMethods)
    (h : awaited target method args = .ok stmt) :
    stmt.ownReads = target.ownReads ++ ownReadsOfExprs args := by
  rw [awaited_eq_ok (of_mem_calledMethods method hmethod).1] at h
  obtain rfl := Except.ok.inj h
  show (Expr.member target ⟨method⟩).ownReads ++ ownReadsOfExprs args = _
  rw [Expr.ownReads, htarget]
  rfl

/-- So does a call on what is expected of a target. -/
theorem ownReads_of_expected (hmethod : method ∈ calledMethods)
    (h : (do awaited (← expectation target) method args) = .ok stmt) :
    stmt.ownReads = target.ownReads ++ ownReadsOfExprs args := by
  rw [expectation_eq_ok] at h
  rw [ownReads_of_awaited rfl hmethod h]
  show target.ownReads ++ [] ++ ownReadsOfExprs args = _
  rw [List.append_nil]

end

/-- **The statement of a method reads the getter that it is given**, and no other
member of `this` but the page. -/
theorem ownReads_of_statement {step : Step} {getter : Identifier} {stmt : Stmt} :
    statement step (.member .this getter) Receiver.own.page = .ok stmt →
      stmt.ownReads = readsOf getter step.action := by
  unfold statement
  -- the arguments hold texts only, so nothing is read by them
  cases step.action with
  | click | setValue | clearText | selectDropdown | uploadFile | hover | scrollTo
    | waitForVisible =>
    exact ownReads_of_awaited rfl (by simp [calledMethods])
  | assertVisible | assertText | assertEnabled | assertDisabled | assertTitle
    | assertUrlContains =>
    exact ownReads_of_expected (by simp [calledMethods])
  | unknown | unsupported =>
    intro h
    obtain rfl := Except.ok.inj h
    rfl

end Playscript.Page
