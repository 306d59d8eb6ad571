import Playscript.Script.Tree

/-!
# A script on another object

The statements of a method speak of the object they are called on as
`this`, and of its page as `this.page`. Put into a function that has both
under other names, they have to speak of those. That is a replacement in
the tree, and it is defined here on all of it, so that what two scripts
have in common can be said without mentioning what either of them looks
like.

An arrow function means by `this` what its surroundings mean, so the
replacement goes into it. A class does not, and is left as it is. It is the
same with the members of `this` that a script reads (`Stmt.ownReads`).
-/

namespace Playscript.Script

/-- **Where a method finds its object and its page.** -/
structure Receiver where
  /-- The object. -/
  self : Expr
  /-- The page. -/
  page : Expr

namespace Receiver

/-- In a method itself. -/
def own : Receiver := ⟨.this, .member .this ⟨"page"⟩⟩

/-- In a test that has made a page object. -/
def made : Receiver := ⟨.ident ⟨"pageObj"⟩, .ident ⟨"page"⟩⟩

end Receiver

/-- Whether an expression is `this`. -/
def Expr.isThis : Expr → Bool
  | .this => true
  | _ => false

/-- Whether a member is the page of `this`. -/
def isOwnPage (object : Expr) (property : Identifier) : Bool :=
  object.isThis && property.text == "page"

mutual

/-- **An expression on another object**, which is put for `this` and whose
page is put for `this.page`. -/
def Expr.redirect (other : Receiver) : Expr → Expr
  | .null => .null
  | .bool value => .bool value
  | .num value => .num value
  | .str text => .str text
  | .regex body => .regex body
  | .ident name => .ident name
  | .this => other.self
  | .super => .super
  | .member object property =>
    if isOwnPage object property then other.page
    else .member (object.redirect other) property
  | .call callee args => .call (callee.redirect other) (redirectExprs other args)
  | .construct maker args =>
    .construct (maker.redirect other) (redirectExprs other args)
  | .await promise => .await (promise.redirect other)
  | .object entries => .object (redirectEntries other entries)
  | .array items => .array (redirectExprs other items)
  | .arrow isAsync params body =>
    .arrow isAsync (redirectParams other params) (redirectStmts other body)

/-- Expressions on another object. -/
def redirectExprs (other : Receiver) : List Expr → List Expr
  | [] => []
  | e :: rest => e.redirect other :: redirectExprs other rest

/-- An entry on another object. -/
def Entry.redirect (other : Receiver) : Entry → Entry
  | ⟨key, value⟩ => ⟨key, value.redirect other⟩

/-- Entries on another object. -/
def redirectEntries (other : Receiver) : List Entry → List Entry
  | [] => []
  | entry :: rest => entry.redirect other :: redirectEntries other rest

/-- A parameter on another object. -/
def Param.redirect (other : Receiver) : Param → Param
  | ⟨pattern, none⟩ => ⟨pattern, none⟩
  | ⟨pattern, some value⟩ => ⟨pattern, some (value.redirect other)⟩

/-- Parameters on another object. -/
def redirectParams (other : Receiver) : List Param → List Param
  | [] => []
  | param :: rest => param.redirect other :: redirectParams other rest

/-- **A statement on another object.** -/
def Stmt.redirect (other : Receiver) : Stmt → Stmt
  | .const pattern value => .const pattern (value.redirect other)
  | .assign object property value =>
    .assign (object.redirect other) property (value.redirect other)
  | .expr value => .expr (value.redirect other)
  | .ret none => .ret none
  | .ret (some value) => .ret (some (value.redirect other))
  | .comment text => .comment text
  | .blank => .blank
  | .classDecl decl => .classDecl decl

/-- Statements on another object. -/
def redirectStmts (other : Receiver) : List Stmt → List Stmt
  | [] => []
  | stmt :: rest => stmt.redirect other :: redirectStmts other rest

end

mutual

/-- **The members of `this` that an expression reads**, in the order in which
they are written. -/
def Expr.ownReads : Expr → List Identifier
  | .null | .bool _ | .num _ | .str _ | .regex _ | .ident _ | .this | .super => []
  | .member object property => if object.isThis then [property] else object.ownReads
  | .call callee args => callee.ownReads ++ ownReadsOfExprs args
  | .construct maker args => maker.ownReads ++ ownReadsOfExprs args
  | .await promise => promise.ownReads
  | .object entries => ownReadsOfEntries entries
  | .array items => ownReadsOfExprs items
  | .arrow _ params body => ownReadsOfParams params ++ ownReadsOfStmts body

/-- The members of `this` that expressions read. -/
def ownReadsOfExprs : List Expr → List Identifier
  | [] => []
  | e :: rest => e.ownReads ++ ownReadsOfExprs rest

/-- The members of `this` that an entry reads. -/
def Entry.ownReads : Entry → List Identifier
  | ⟨_, value⟩ => value.ownReads

/-- The members of `this` that entries read. -/
def ownReadsOfEntries : List Entry → List Identifier
  | [] => []
  | entry :: rest => entry.ownReads ++ ownReadsOfEntries rest

/-- The members of `this` that a parameter reads. -/
def Param.ownReads : Param → List Identifier
  | ⟨_, none⟩ => []
  | ⟨_, some value⟩ => value.ownReads

/-- The members of `this` that parameters read. -/
def ownReadsOfParams : List Param → List Identifier
  | [] => []
  | param :: rest => param.ownReads ++ ownReadsOfParams rest

/-- **The members of `this` that a statement reads.** -/
def Stmt.ownReads : Stmt → List Identifier
  | .const _ value => value.ownReads
  | .assign object _ value => object.ownReads ++ value.ownReads
  | .expr value => value.ownReads
  | .ret none => []
  | .ret (some value) => value.ownReads
  | .comment _ | .blank | .classDecl _ => []

/-- The members of `this` that statements read. -/
def ownReadsOfStmts : List Stmt → List Identifier
  | [] => []
  | stmt :: rest => stmt.ownReads ++ ownReadsOfStmts rest

end

/-- A member that is not called `page` stays a member of what its object
becomes. -/
theorem redirect_member (other : Receiver) (object : Expr) {name : Identifier}
    (h : name.text ≠ "page") :
    (Expr.member object name).redirect other = .member (object.redirect other) name := by
  have hpage : isOwnPage object name = false := by
    rw [isOwnPage, beq_eq_false_iff_ne.mpr h, Bool.and_false]
  rw [Expr.redirect, hpage]
  rfl

/-- The page of `this` becomes the other page. -/
theorem redirect_own_page (other : Receiver) : Receiver.own.page.redirect other = other.page := by
  show (Expr.member .this ⟨"page"⟩).redirect other = other.page
  rw [Expr.redirect, if_pos]
  rfl

end Playscript.Script
