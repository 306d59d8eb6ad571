import Playscript.Number.Binary64
import Playscript.Script.Identifier

/-!
# Scripts as trees

What a generated script is made of, before it is written down: modules of
statements, and the expressions, classes and functions in them. Only what
page objects and test scripts need is here.

A tree says nothing about how it is written, and any tree can be
written; that a tree was built from legal names and holds no class with
two members of one name is the business of `Script.Build`.
-/

namespace Playscript.Script

/-- **What a declaration or a parameter binds.** -/
inductive Pattern where
  /-- One name. -/
  | name (name : Identifier)
  /-- The members of an object, by their names. -/
  | members (names : List Identifier)
deriving Repr, DecidableEq

/-- Whether a member of a class is called or read. -/
inductive MemberKind where
  /-- A method, which is called. -/
  | method
  /-- A getter, which is read like a property. -/
  | getter
deriving Repr, DecidableEq

mutual

/-- **An expression.** -/
inductive Expr where
  /-- `null`. -/
  | null
  /-- `true` or `false`. -/
  | bool (value : Bool)
  /-- A number. -/
  | num (value : Binary64)
  /-- A string, given by the text it stands for. -/
  | str (text : String)
  /-- A regular expression, given by its body as it is written. -/
  | regex (body : String)
  /-- A name. -/
  | ident (name : Identifier)
  /-- `this`. -/
  | this
  /-- `super`. -/
  | super
  /-- A member of an object. -/
  | member (object : Expr) (property : Identifier)
  /-- A call. -/
  | call (callee : Expr) (args : List Expr)
  /-- The construction of an object. -/
  | construct (maker : Expr) (args : List Expr)
  /-- The wait for a promise. -/
  | await (promise : Expr)
  /-- An object, its entries in order. -/
  | object (entries : List Entry)
  /-- An array. -/
  | array (items : List Expr)
  /-- An arrow function with statements for a body. -/
  | arrow (isAsync : Bool) (params : List Param) (body : List Stmt)

/-- **An entry of an object**: a key, which may be any text, and a
value. -/
structure Entry where
  /-- The key. -/
  key : String
  /-- The value. -/
  value : Expr

/-- **A parameter** and the value it has when none is passed. -/
structure Param where
  /-- What is bound. -/
  pattern : Pattern
  /-- The value when none is passed. -/
  fallback : Option Expr

/-- **A statement.** -/
inductive Stmt where
  /-- The declaration of a constant. -/
  | const (pattern : Pattern) (value : Expr)
  /-- An assignment to a member of an object. -/
  | assign (object : Expr) (property : Identifier) (value : Expr)
  /-- An expression for its effect. -/
  | expr (value : Expr)
  /-- The return from a function. -/
  | ret (value : Option Expr)
  /-- A comment, possibly of several lines. -/
  | comment (text : String)
  /-- An empty line. -/
  | blank
  /-- The declaration of a class. -/
  | classDecl (decl : ClassDecl)

/-- **A constructor**: what makes the objects of a class. -/
structure Maker where
  /-- The parameters. -/
  params : List Param
  /-- The statements. -/
  body : List Stmt

/-- **A member of a class.** -/
structure Member where
  /-- The name. -/
  name : Identifier
  /-- Whether it is called or read. -/
  kind : MemberKind
  /-- Whether it is asynchronous. -/
  isAsync : Bool
  /-- The parameters, none for a getter. -/
  params : List Param
  /-- The statements. -/
  body : List Stmt

/-- **A class.** -/
structure ClassDecl where
  /-- The name. -/
  name : Identifier
  /-- The class it extends. -/
  parent : Option Identifier
  /-- The constructor. -/
  maker : Option Maker
  /-- The members in order. -/
  members : List Member

end

/-- **A module**: the statements of one file. -/
structure Module where
  /-- The statements in order. -/
  statements : List Stmt

end Playscript.Script
