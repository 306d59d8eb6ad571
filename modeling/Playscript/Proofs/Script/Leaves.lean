import Mathlib.Data.List.Basic
import Playscript.Script.Literal
import Playscript.Script.Tree

/-!
# The leaves of a tree

A tree is a frame of fixed words and marks around its leaves, and only the
leaves can hold text that comes from elsewhere: names, strings, keys,
regular expressions and comments. What is asked of a tree before something
can be said of its written form is asked of each leaf by itself, and so it
is put as a condition on the list of leaves. There is one traversal for all
such conditions, and what a condition says of a part of a tree is a matter
of lists.

The leaves stand in the order in which they are written.
-/

namespace Playscript.Script

/-- **A leaf of a tree**: a part with a written form of its own. -/
inductive Leaf where
  /-- A name. -/
  | name (name : Identifier)
  /-- The name of a member in the class that declares it. -/
  | memberName (name : Identifier)
  /-- A number. -/
  | number (value : Binary64)
  /-- A string. -/
  | string (text : String)
  /-- A key of an object. -/
  | key (text : String)
  /-- The body of a regular expression. -/
  | regex (body : String)
  /-- A comment. -/
  | comment (text : String)

/-- The leaves of a pattern. -/
def Pattern.leaves : Pattern → List Leaf
  | .name bound => [.name bound]
  | .members names => names.map .name

/-- The leaves of what opens a class. -/
def headLeaves (name : Identifier) (parent : Option Identifier) : List Leaf :=
  .name name :: parent.toList.map .name

mutual

/-- **The leaves of an expression.** -/
def Expr.leaves : Expr → List Leaf
  | .null | .bool _ | .this | .super => []
  | .num value => [.number value]
  | .str text => [.string text]
  | .regex body => [.regex body]
  | .ident name => [.name name]
  | .member object property => object.leaves ++ [.name property]
  | .call callee args => callee.leaves ++ leavesOfExprs args
  | .construct maker args => maker.leaves ++ leavesOfExprs args
  | .await promise => promise.leaves
  | .object entries => leavesOfEntries entries
  | .array items => leavesOfExprs items
  | .arrow _ params body => leavesOfParams params ++ leavesOfStmts body

/-- The leaves of expressions. -/
def leavesOfExprs : List Expr → List Leaf
  | [] => []
  | e :: rest => e.leaves ++ leavesOfExprs rest

/-- The leaves of an entry. -/
def Entry.leaves : Entry → List Leaf
  | ⟨key, value⟩ => .key key :: value.leaves

/-- The leaves of entries. -/
def leavesOfEntries : List Entry → List Leaf
  | [] => []
  | entry :: rest => entry.leaves ++ leavesOfEntries rest

/-- The leaves of a parameter. -/
def Param.leaves : Param → List Leaf
  | ⟨pattern, none⟩ => pattern.leaves
  | ⟨pattern, some value⟩ => pattern.leaves ++ value.leaves

/-- The leaves of parameters. -/
def leavesOfParams : List Param → List Leaf
  | [] => []
  | param :: rest => param.leaves ++ leavesOfParams rest

/-- **The leaves of a statement.** -/
def Stmt.leaves : Stmt → List Leaf
  | .const pattern value => pattern.leaves ++ value.leaves
  | .assign object property value => object.leaves ++ .name property :: value.leaves
  | .expr value => value.leaves
  | .ret none => []
  | .ret (some value) => value.leaves
  | .comment text => [.comment text]
  | .blank => []
  | .classDecl decl => decl.leaves

/-- The leaves of statements. -/
def leavesOfStmts : List Stmt → List Leaf
  | [] => []
  | stmt :: rest => stmt.leaves ++ leavesOfStmts rest

/-- The leaves of a class. -/
def ClassDecl.leaves : ClassDecl → List Leaf
  | ⟨name, parent, none, members⟩ => headLeaves name parent ++ leavesOfMembers members
  | ⟨name, parent, some maker, members⟩ =>
    headLeaves name parent ++ (maker.leaves ++ leavesOfMembers members)

/-- The leaves of a constructor. -/
def Maker.leaves : Maker → List Leaf
  | ⟨params, body⟩ => leavesOfParams params ++ leavesOfStmts body

/-- The leaves of a member of a class. -/
def Member.leaves : Member → List Leaf
  | ⟨name, _, _, params, body⟩ => .memberName name :: (leavesOfParams params ++ leavesOfStmts body)

/-- The leaves of members. -/
def leavesOfMembers : List Member → List Leaf
  | [] => []
  | member :: rest => member.leaves ++ leavesOfMembers rest

end

/-- The leaves of expressions, one expression after the other. -/
theorem leavesOfExprs_eq_flatMap (es : List Expr) : leavesOfExprs es = es.flatMap Expr.leaves := by
  induction es with
  | nil => rfl
  | cons e rest ih =>
    rw [List.flatMap_cons, ← ih]
    rfl

/-- The leaves of statements, one statement after the other. -/
theorem leavesOfStmts_eq_flatMap (stmts : List Stmt) :
    leavesOfStmts stmts = stmts.flatMap Stmt.leaves := by
  induction stmts with
  | nil => rfl
  | cons stmt rest ih =>
    rw [List.flatMap_cons, ← ih]
    rfl

/-- Empty lines have no leaves. -/
theorem leavesOfStmts_intersperse_blank (stmts : List Stmt) :
    leavesOfStmts (stmts.intersperse .blank) = leavesOfStmts stmts := by
  induction stmts with
  | nil => rfl
  | cons stmt rest ih =>
    cases rest with
    | nil => rfl
    | cons next rest =>
      rw [List.intersperse_cons_cons]
      show stmt.leaves ++ leavesOfStmts ((next :: rest).intersperse .blank) = _
      rw [ih]
      rfl

/-- The leaves of members, one member after the other. -/
theorem leavesOfMembers_eq_flatMap (members : List Member) :
    leavesOfMembers members = members.flatMap Member.leaves := by
  induction members with
  | nil => rfl
  | cons member rest ih =>
    rw [List.flatMap_cons, ← ih]
    rfl

/-- The leaves of a module. -/
def Module.leaves (m : Module) : List Leaf := leavesOfStmts m.statements

namespace Leaf

/-- **A leaf that may be written down**: a name is one of the language, and
a regular expression is one that matches some text literally. Every other
leaf may hold any text. -/
def IsLegal : Leaf → Prop
  | .name identifier | .memberName identifier => identifier.isValid = true
  | .regex body => ∃ text, body = regexBody text
  | .number _ | .string _ | .key _ | .comment _ => True

end Leaf

/-- **A module that may be written down.** -/
def Module.IsLegal (m : Module) : Prop := ∀ leaf ∈ m.leaves, leaf.IsLegal

end Playscript.Script
