import Playscript.Json.Parts
import Playscript.Script.Tree

/-!
# Reading script trees

A tree can be kept as JSON and read back. Names are taken as they are, so
a tree that was read may hold names that nobody checked.
-/

namespace Playscript.Script

open Json (Part)

/-- Reads a name. -/
def readName? (value : Json) : Option Identifier :=
  value.asString?.map Identifier.mk

/-- Reads a field that may be missing or `null`. -/
def readOptional? {α : Type} {whole : Json} (read : Part whole → Option α) :
    Option (Part whole) → Option (Option α)
  | none => some none
  | some ⟨.null, _⟩ => some none
  | some part => (read part).map some

/-- Reads `true` or `false`. -/
def readBool? : Json → Option Bool
  | .bool value => some value
  | _ => none

/-- Reads a number. -/
def readNumber? : Json → Option Binary64
  | .number lexeme => Binary64.ofText? (String.ofList lexeme)
  | _ => none

/-- Reads what is bound. -/
def readPattern? (value : Json) : Option Pattern := do
  match ← value.choice? with
  | ("Ident", some name) => return .name (← readName? name)
  | ("Object", some names) => return .members (← (← names.1.asArray?).mapM readName?)
  | _ => none

/-- Reads whether a member is called or read. -/
def readKind? (value : Json) : Option MemberKind := do
  match ← value.choice? with
  | ("Method", held) => if Json.holdsNothing held then some .method else none
  | ("Getter", held) => if Json.holdsNothing held then some .getter else none
  | _ => none

mutual

/-- **Reads an expression.** -/
def readExpr? (value : Json) : Option Expr := do
  match ← value.choice? with
  | ("Null", held) => if Json.holdsNothing held then some .null else none
  | ("This", held) => if Json.holdsNothing held then some .this else none
  | ("Super", held) => if Json.holdsNothing held then some .super else none
  | ("Bool", some held) => return .bool (← readBool? held)
  | ("Num", some held) => return .num (← readNumber? held)
  | ("Str", some held) => return .str (← held.1.asString?)
  | ("Regex", some held) => return .regex (← held.1.asString?)
  | ("Ident", some held) => return .ident (← readName? held)
  | ("Await", some held) => return .await (← readExpr? held.1)
  | ("Array", some held) =>
    return .array (← (← held.1.items?).mapM fun item => readExpr? item.1)
  | ("Object", some held) =>
    return .object (← (← held.1.items?).mapM fun item => readEntry? item.1)
  | ("Member", some held) =>
    match ← held.1.record? ["object", "property"] with
    | [some object, some property] =>
      return .member (← readExpr? object.1) (← readName? property)
    | _ => none
  | ("Call", some held) =>
    match ← held.1.record? ["callee", "args"] with
    | [some callee, some args] =>
      return .call (← readExpr? callee.1) (← (← args.1.items?).mapM fun item => readExpr? item.1)
    | _ => none
  | ("New", some held) =>
    match ← held.1.record? ["constructor", "args"] with
    | [some maker, some args] =>
      return .construct (← readExpr? maker.1)
        (← (← args.1.items?).mapM fun item => readExpr? item.1)
    | _ => none
  | ("Arrow", some held) =>
    match ← held.1.record? ["is_async", "params", "body"] with
    | [some isAsync, some params, some body] =>
      return .arrow (← readBool? isAsync)
        (← (← params.1.items?).mapM fun item => readParam? item.1)
        (← (← body.1.items?).mapM fun item => readStmt? item.1)
    | _ => none
  | _ => none
termination_by sizeOf value
decreasing_by all_goals grind

/-- Reads an entry of an object: an array of a key and a value. -/
def readEntry? (value : Json) : Option Entry := do
  match ← value.items? with
  | [key, held] => return ⟨← key.1.asString?, ← readExpr? held.1⟩
  | _ => none
termination_by sizeOf value
decreasing_by all_goals grind

/-- Reads a parameter. -/
def readParam? (value : Json) : Option Param := do
  match ← value.record? ["pattern", "default"] with
  | [some pattern, fallback] =>
    return ⟨← readPattern? pattern, ← readOptional? (fun part => readExpr? part.1) fallback⟩
  | _ => none
termination_by sizeOf value
decreasing_by all_goals grind

/-- **Reads a statement.** -/
def readStmt? (value : Json) : Option Stmt := do
  match ← value.choice? with
  | ("Blank", held) => if Json.holdsNothing held then some .blank else none
  | ("Comment", some held) => return .comment (← held.1.asString?)
  | ("Expr", some held) => return .expr (← readExpr? held.1)
  | ("Return", some held) =>
    return .ret (← readOptional? (fun part => readExpr? part.1) (some held))
  | ("Const", some held) =>
    match ← held.1.record? ["pattern", "value"] with
    | [some pattern, some bound] => return .const (← readPattern? pattern) (← readExpr? bound.1)
    | _ => none
  | ("MemberAssign", some held) =>
    match ← held.1.record? ["object", "member", "value"] with
    | [some object, some property, some bound] =>
      return .assign (← readExpr? object.1) (← readName? property) (← readExpr? bound.1)
    | _ => none
  | ("Class", some held) => return .classDecl (← readClass? held.1)
  | _ => none
termination_by sizeOf value
decreasing_by all_goals grind

/-- Reads a class. -/
def readClass? (value : Json) : Option ClassDecl := do
  match ← value.record? ["name", "extends", "constructor", "members"] with
  | [some name, parent, maker, some members] =>
    return ⟨← readName? name,
      ← readOptional? (fun part => readName? part.1) parent,
      ← readOptional? (fun part => readMaker? part.1) maker,
      ← (← members.1.items?).mapM fun item => readMember? item.1⟩
  | _ => none
termination_by sizeOf value
decreasing_by all_goals grind

/-- Reads a constructor. -/
def readMaker? (value : Json) : Option Maker := do
  match ← value.record? ["params", "body"] with
  | [some params, some body] =>
    return ⟨← (← params.1.items?).mapM fun item => readParam? item.1,
      ← (← body.1.items?).mapM fun item => readStmt? item.1⟩
  | _ => none
termination_by sizeOf value
decreasing_by all_goals grind

/-- Reads a member of a class. -/
def readMember? (value : Json) : Option Member := do
  match ← value.record? ["name", "kind", "is_async", "params", "body"] with
  | [some name, some kind, some isAsync, some params, some body] =>
    return ⟨← readName? name, ← readKind? kind, ← readBool? isAsync,
      ← (← params.1.items?).mapM fun item => readParam? item.1,
      ← (← body.1.items?).mapM fun item => readStmt? item.1⟩
  | _ => none
termination_by sizeOf value
decreasing_by all_goals grind

end

/-- **Reads a module.** -/
def readModule? (value : Json) : Option Module := do
  match ← value.record? ["statements"] with
  | [some statements] => return ⟨← (← statements.1.asArray?).mapM readStmt?⟩
  | _ => none

/-- **Reads a text as a module.** -/
def Module.parse? (text : String) : Option Module := do
  readModule? (← Json.parse? text)

end Playscript.Script
