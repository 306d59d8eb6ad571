import Playscript.Number.Shortest
import Playscript.Script.Literal
import Playscript.Script.Tree

/-!
# Writing a script

Every tree has one written form: two spaces of indentation per level,
strings in double quotes, a line feed after every statement. Writing
cannot fail.

The written form of a part depends on nothing but the part and the depth
at which it stands, and the depth shows only behind a line feed.
-/

namespace Playscript.Script

/-- The blanks in front of a line at some depth. -/
def indent (depth : Nat) : List Char :=
  List.replicate (2 * depth) ' '

/-- Parts with a comma and a blank between them. -/
def separated : List (List Char) → List Char
  | [] => []
  | [part] => part
  | part :: rest => part ++ ", ".toList ++ separated rest

/-- A pattern as it is written. -/
def writePattern : Pattern → List Char
  | .name name => name.text.toList
  | .members names =>
    "\x7b ".toList ++ separated (names.map (·.text.toList)) ++ " \x7d".toList

/-- A key as it is written: bare when it is a legal name, quoted
otherwise. -/
def writeKey (key : String) : List Char :=
  if (Identifier.mk key).isValid then key.toList else quote key

/-- A comment at some depth, its last line not ended. -/
def writeComment (depth : Nat) (text : String) : List Char :=
  ['\n'].intercalate ((commentLines text.toList).mapIdx fun i line =>
    (if i = 0 then [] else indent depth) ++ "// ".toList ++ line)

/-- Whether an expression has to stand in parentheses in front of `.` and
of arguments. -/
def isLoose : Expr → Bool
  | .await _ | .construct _ _ | .arrow _ _ _ | .object _ => true
  | _ => false

/-- An expression as it stands in front of `.` and of arguments, given how
it is written alone. -/
def enclose (e : Expr) (written : List Char) : List Char :=
  if isLoose e then '(' :: (written ++ [')']) else written

/-- The line that opens a class, without its indentation. -/
def writeHead (name : Identifier) (parent : Option Identifier) : List Char :=
  "class ".toList ++ name.text.toList
    ++ (match parent with
      | none => []
      | some parent => " extends ".toList ++ parent.text.toList)
    ++ " \x7b\n".toList

mutual

/-- **An expression as it is written** at some depth. -/
def writeExpr (depth : Nat) : Expr → List Char
  | .null => "null".toList
  | .bool value => (if value then "true" else "false").toList
  | .num value => value.toText
  | .str text => quote text
  | .regex body => slashed body
  | .ident name => name.text.toList
  | .this => "this".toList
  | .super => "super".toList
  | .member object property =>
    enclose object (writeExpr depth object) ++ '.' :: property.text.toList
  | .call callee args =>
    enclose callee (writeExpr depth callee) ++ '(' :: (separated (writeExprs depth args) ++ [')'])
  | .construct maker args =>
    "new ".toList ++ enclose maker (writeExpr depth maker)
      ++ '(' :: (separated (writeExprs depth args) ++ [')'])
  | .await promise => "await ".toList ++ writeExpr depth promise
  | .object [] => "\x7b\x7d".toList
  | .object (entry :: entries) =>
    "\x7b ".toList ++ separated (writeEntry depth entry :: writeEntries depth entries)
      ++ " \x7d".toList
  | .array items => '[' :: (separated (writeExprs depth items) ++ [']'])
  | .arrow isAsync params body =>
    (if isAsync then "async " else "").toList
      ++ '(' :: (separated (writeParams depth params) ++ ") => ".toList)
      ++ "\x7b\n".toList ++ writeStmts (depth + 1) body ++ indent depth ++ ['\x7d']

/-- Expressions as they are written. -/
def writeExprs (depth : Nat) : List Expr → List (List Char)
  | [] => []
  | e :: rest => writeExpr depth e :: writeExprs depth rest

/-- An entry of an object as it is written. -/
def writeEntry (depth : Nat) : Entry → List Char
  | ⟨key, value⟩ => writeKey key ++ ": ".toList ++ writeExpr depth value

/-- Entries as they are written. -/
def writeEntries (depth : Nat) : List Entry → List (List Char)
  | [] => []
  | entry :: rest => writeEntry depth entry :: writeEntries depth rest

/-- A parameter as it is written. -/
def writeParam (depth : Nat) : Param → List Char
  | ⟨pattern, none⟩ => writePattern pattern
  | ⟨pattern, some value⟩ => writePattern pattern ++ " = ".toList ++ writeExpr depth value

/-- Parameters as they are written. -/
def writeParams (depth : Nat) : List Param → List (List Char)
  | [] => []
  | param :: rest => writeParam depth param :: writeParams depth rest

/-- **A statement as it is written** at some depth, its lines ended. -/
def writeStmt (depth : Nat) : Stmt → List Char
  | .const pattern value =>
    indent depth ++ "const ".toList ++ writePattern pattern ++ " = ".toList
      ++ writeExpr depth value ++ ";\n".toList
  | .assign object property value =>
    indent depth ++ enclose object (writeExpr depth object) ++ '.' :: property.text.toList
      ++ " = ".toList ++ writeExpr depth value ++ ";\n".toList
  | .expr value => indent depth ++ writeExpr depth value ++ ";\n".toList
  | .ret none => indent depth ++ "return;\n".toList
  | .ret (some value) =>
    indent depth ++ "return ".toList ++ writeExpr depth value ++ ";\n".toList
  | .comment text => indent depth ++ writeComment depth text ++ ['\n']
  | .blank => ['\n']
  | .classDecl decl => indent depth ++ writeClass depth decl ++ ['\n']

/-- Statements as they are written, one after the other. -/
def writeStmts (depth : Nat) : List Stmt → List Char
  | [] => []
  | stmt :: rest => writeStmt depth stmt ++ writeStmts depth rest

/-- A class as it is written, its last line not ended. -/
def writeClass (depth : Nat) : ClassDecl → List Char
  | ⟨name, parent, none, members⟩ =>
    writeHead name parent ++ ['\n'].intercalate (writeMembers (depth + 1) members)
      ++ indent depth ++ ['\x7d']
  | ⟨name, parent, some maker, members⟩ =>
    writeHead name parent
      ++ ['\n'].intercalate (writeMaker (depth + 1) maker :: writeMembers (depth + 1) members)
      ++ indent depth ++ ['\x7d']

/-- A constructor as it is written, its lines ended. -/
def writeMaker (depth : Nat) : Maker → List Char
  | ⟨params, body⟩ =>
    indent depth ++ "constructor(".toList ++ separated (writeParams depth params)
      ++ ") \x7b\n".toList ++ writeStmts (depth + 1) body ++ indent depth ++ "\x7d\n".toList

/-- A member of a class as it is written, its lines ended. -/
def writeMember (depth : Nat) : Member → List Char
  | ⟨name, kind, isAsync, params, body⟩ =>
    indent depth ++ (if isAsync then "async " else "").toList
      ++ (if kind = .getter then "get " else "").toList
      ++ name.text.toList ++ '(' :: (separated (writeParams depth params) ++ ") \x7b\n".toList)
      ++ writeStmts (depth + 1) body ++ indent depth ++ "\x7d\n".toList

/-- Members as they are written. -/
def writeMembers (depth : Nat) : List Member → List (List Char)
  | [] => []
  | member :: rest => writeMember depth member :: writeMembers depth rest

end

/-- **A module as it is written.** -/
def Module.write (m : Module) : String :=
  String.ofList (writeStmts 0 m.statements)

end Playscript.Script
