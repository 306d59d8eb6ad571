import Mathlib.Order.Filter.AtTopBot.Basic
import Playscript.Proofs.Script.Literal
import Playscript.Script.Tree

/-!
# Reading a script back

A reader for scripts as they are written, from the left and with a bounded
look ahead. It does not know at what depth it reads: blanks in front of a
line are passed over.

Most of what it decides, it decides by the next character or word. Three
places need more. An opening parenthesis stands in front of parameters or
around an expression, and what follows it tells which (`opensParams`): an
object that stands in parentheses is told from a pattern by its first key.
The word `async` is a name like any other unless a blank and a parenthesis
follow. And `new` is followed by a call, whose arguments are those of the
construction, as any call further in stands in parentheses
(`construction?`).

The parts of a script contain each other, and so their readers are not
functions that call each other: each is given a reader for all parts
(`Reader`) and is done with it. Doing so a number of times makes a reader
that gives up at some depth (`readWithin`). What a text reads as is what it
reads as at every depth that is large enough (`Reads`), and that is never
more than one thing (`Reads.eq`).
-/

namespace Playscript.Script

/-! ## Words and marks -/

/-- What stands behind a fixed text, if a text begins with it. -/
def after? : List Char → List Char → Option (List Char)
  | [], input => some input
  | _ :: _, [] => none
  | c :: fixed, d :: input => if c = d then after? fixed input else none

/-- The longest word at the front of a text, and what stands behind it. -/
def parseWord (input : List Char) : List Char × List Char :=
  (input.takeWhile Identifier.isNameChar, input.dropWhile Identifier.isNameChar)

/-- A name. -/
def parseName (input : List Char) : Option (Identifier × List Char) :=
  if (parseWord input).1 = [] then none
  else some (⟨String.ofList (parseWord input).1⟩, (parseWord input).2)

/-- What stands behind a comma that divides parts. -/
def afterComma (input : List Char) : List Char :=
  (after? ", ".toList input).getD input

/-- What stands behind the blanks in front of a line. -/
def skipBlanks (input : List Char) : List Char :=
  input.dropWhile (· = ' ')

/-! ## Literals -/

/-- The text of a string, up to the quote that ends it. -/
def parseText : List Char → Option (List Char × List Char)
  | [] => none
  | '"' :: rest => some ([], rest)
  | '\\' :: 'u' :: a :: b :: c :: d :: rest =>
    match Text.hexNumber? a b c d with
    | none => none
    | some n => (parseText rest).map fun found => (Char.ofNat n :: found.1, found.2)
  | '\\' :: letter :: rest =>
    match shortEscape? letter with
    | none => none
    | some c => (parseText rest).map fun found => (c :: found.1, found.2)
  | c :: rest => (parseText rest).map fun found => (c :: found.1, found.2)

/-- A regular expression as it is written, up to the slash that ends it. -/
def parseRegex : List Char → Option (List Char × List Char)
  | [] => none
  | '/' :: rest => some ([], rest)
  | '\\' :: c :: rest => (parseRegex rest).map fun found => ('\\' :: c :: found.1, found.2)
  | c :: rest => (parseRegex rest).map fun found => (c :: found.1, found.2)

/-- The body that is written as some text between slashes. -/
def bodyOf (text : List Char) : String :=
  if text = "(?:)".toList then "" else String.ofList text

/-- A key of an object. -/
def parseKey (input : List Char) : Option (String × List Char) :=
  match after? ['"'] input with
  | some rest => (parseText rest).map fun found => (String.ofList found.1, found.2)
  | none => (parseName input).map fun found => (found.1.text, found.2)

/-! ## Looking ahead -/

/-- The words that begin statements other than expressions. -/
def stmtWords : List String := ["const", "return", "class"]

/-- Whether an expression stands at the front of a text. -/
def opensExpr : List Char → Bool
  | [] => false
  | c :: rest =>
    if Identifier.isNameChar c then
      !stmtWords.contains (String.ofList (parseWord (c :: rest)).1)
    else if c = '/' then rest.head? != some '/'
    else ['"', '[', '\x7b', '('].contains c

/-- Whether names that are bound stand behind an opening brace, and not the
entries of an object. -/
def opensNames (input : List Char) : Bool :=
  input.head? != some '"' && (parseWord input).2.head? != some ':'

/-- Whether parameters stand behind an opening parenthesis, and not an
expression. -/
def opensParams : List Char → Bool
  | [] => false
  | c :: rest =>
    if Identifier.isNameChar c then
      let (word, rest) := parseWord (c :: rest)
      word != "await".toList && word != "new".toList
        && !(word == "async".toList && (after? " (".toList rest).isSome)
    else if c = '\x7b' then rest.head? == some ' ' && opensNames rest.tail
    else c == ')'

/-- A word that is an expression. -/
def exprOfName (name : Identifier) : Expr :=
  if name.text = "null" then .null
  else if name.text = "true" then .bool true
  else if name.text = "false" then .bool false
  else if name.text = "this" then .this
  else if name.text = "super" then .super
  else .ident name

/-- The construction that is written as `new` and some call. -/
def construction? : Expr → Option Expr
  | .call maker args => some (.construct maker args)
  | _ => none

/-- The statement that is written as an expression, and a value behind an
equals sign if there is one. -/
def stmtOf? : Expr → Option Expr → Option Stmt
  | .member object property, some value => some (.assign object property value)
  | _, some _ => none
  | e, none => some (.expr e)

/-- A constructor, taken for a method of that name. -/
def Maker.toMember : Maker → Member
  | ⟨params, body⟩ => ⟨⟨"constructor"⟩, .method, false, params, body⟩

/-- The class with some members, the first of which may be a
constructor. -/
def classWith (name : Identifier) (parent : Option Identifier) : List Member → ClassDecl
  | [] => ⟨name, parent, none, []⟩
  | first :: rest =>
    if first.name.text = "constructor" then ⟨name, parent, some ⟨first.params, first.body⟩, rest⟩
    else ⟨name, parent, none, first :: rest⟩

/-- Whether a modifier and a blank stand at the front of a text, and what
stands behind them. -/
def parseModifier (modifier : String) (input : List Char) : Bool × List Char :=
  match parseWord input with
  | (word, ' ' :: rest) => if word = modifier.toList then (true, rest) else (false, input)
  | _ => (false, input)

/-- What opens a class, behind the word for it: its name and the class it
extends. -/
def parseHead (input : List Char) : Option ((Identifier × Option Identifier) × List Char) := do
  let (name, rest) ← parseName input
  match after? " extends ".toList rest with
  | some rest => (parseName rest).map fun found => ((name, some found.1), found.2)
  | none => return ((name, none), rest)

/-- A comment, up to the end of its line. -/
def parseComment (input : List Char) : Stmt × List Char :=
  (.comment (String.ofList (input.takeWhile (· ≠ '\n'))), (input.dropWhile (· ≠ '\n')).tail)

/-! ## Parts -/

/-- **A part of a script**, with what was read in front of it. -/
inductive Part where
  /-- Names up to a brace. -/
  | names
  /-- A pattern. -/
  | pattern
  /-- An expression. -/
  | expr
  /-- The members and arguments behind an expression. -/
  | suffixes (e : Expr)
  /-- An expression up to the members and arguments behind it. -/
  | primary
  /-- An expression that begins with a word, from behind the word. -/
  | named (name : Identifier)
  /-- An arrow function, from its parameters on. -/
  | arrow (isAsync : Bool)
  /-- Expressions up to a bracket. -/
  | exprs (close : Char)
  /-- Entries up to a brace. -/
  | entries
  /-- A value behind an equals sign, if there is one. -/
  | value
  /-- Parameters up to a parenthesis. -/
  | params
  /-- A statement. -/
  | stmt
  /-- A statement that begins with a word of its own, from behind the word. -/
  | wordStmt (word : String)
  /-- Statements up to the end or a brace, which is left. -/
  | stmts
  /-- A member of a class, or its constructor. -/
  | member
  /-- The members of a class up to a brace, which is left. -/
  | members

/-- What a part is read as. -/
abbrev Part.Result : Part → Type
  | names => List Identifier
  | pattern => Pattern
  | expr | suffixes _ | primary | named _ | arrow _ => Expr
  | exprs _ => List Expr
  | entries => List Entry
  | value => Option Expr
  | params => List Param
  | stmt | wordStmt _ => Stmt
  | stmts => List Stmt
  | member => Member
  | members => List Member

/-- **A reader of all parts**: what it reads, and what stands behind that. -/
abbrev Reader := (part : Part) → List Char → Option (part.Result × List Char)

section

variable (read : Reader)

def parseNames (input : List Char) : Option (List Identifier × List Char) :=
  match after? " \x7d".toList input with
  | some rest => some ([], rest)
  | none => do
    let (name, rest) ← parseName input
    let (names, rest) ← read .names (afterComma rest)
    return (name :: names, rest)

def parsePattern (input : List Char) : Option (Pattern × List Char) :=
  match after? "\x7b ".toList input with
  | some rest => (read .names rest).map fun found => (.members found.1, found.2)
  | none => (parseName input).map fun found => (.name found.1, found.2)

def parseExpr (input : List Char) : Option (Expr × List Char) := do
  let (e, rest) ← read .primary input
  read (.suffixes e) rest

def parseSuffixes (e : Expr) (input : List Char) : Option (Expr × List Char) :=
  match input with
  | '.' :: rest => do
    let (name, rest) ← parseName rest
    read (.suffixes (.member e name)) rest
  | '(' :: rest => do
    let (args, rest) ← read (.exprs ')') rest
    read (.suffixes (.call e args)) rest
  | rest => some (e, rest)

def parsePrimary (input : List Char) : Option (Expr × List Char) :=
  match input with
  | '"' :: rest => (parseText rest).map fun found => (.str (String.ofList found.1), found.2)
  | '/' :: rest => (parseRegex rest).map fun found => (.regex (bodyOf found.1), found.2)
  | '[' :: rest => do
    let (items, rest) ← read (.exprs ']') rest
    return (.array items, rest)
  | '\x7b' :: '\x7d' :: rest => some (.object [], rest)
  | '\x7b' :: ' ' :: rest => do
    let (entries, rest) ← read .entries rest
    return (.object entries, rest)
  | '(' :: rest =>
    if opensParams rest then read (.arrow false) rest
    else do
      let (e, rest) ← read .expr rest
      let rest ← after? [')'] rest
      return (e, rest)
  | rest => do
    let (name, rest) ← parseName rest
    read (.named name) rest

def parseNamed (name : Identifier) (input : List Char) : Option (Expr × List Char) :=
  if name.text = "new" then do
    let (e, rest) ← read .expr input.tail
    let e ← construction? e
    return (e, rest)
  else if name.text = "await" then do
    let (e, rest) ← read .expr input.tail
    return (.await e, rest)
  else
    match after? " (".toList input with
    | some params => if name.text = "async" then read (.arrow true) params else none
    | none => some (exprOfName name, input)

def parseArrow (isAsync : Bool) (input : List Char) : Option (Expr × List Char) := do
  let (params, rest) ← read .params input
  let rest ← after? " => \x7b\n".toList rest
  let (body, rest) ← read .stmts rest
  let rest ← after? ['\x7d'] rest
  return (.arrow isAsync params body, rest)

def parseExprs (close : Char) (input : List Char) : Option (List Expr × List Char) :=
  match after? [close] input with
  | some rest => some ([], rest)
  | none => do
    let (e, rest) ← read .expr input
    let (es, rest) ← read (.exprs close) (afterComma rest)
    return (e :: es, rest)

def parseEntries (input : List Char) : Option (List Entry × List Char) :=
  match after? " \x7d".toList input with
  | some rest => some ([], rest)
  | none => do
    let (key, rest) ← parseKey input
    let rest ← after? ": ".toList rest
    let (value, rest) ← read .expr rest
    let (entries, rest) ← read .entries (afterComma rest)
    return (⟨key, value⟩ :: entries, rest)

def parseValue (input : List Char) : Option (Option Expr × List Char) :=
  match after? " = ".toList input with
  | some rest => do
    let (value, rest) ← read .expr rest
    return (some value, rest)
  | none => some (none, input)

def parseParams (input : List Char) : Option (List Param × List Char) :=
  match after? [')'] input with
  | some rest => some ([], rest)
  | none => do
    let (pattern, rest) ← read .pattern input
    let (fallback, rest) ← read .value rest
    let (params, rest) ← read .params (afterComma rest)
    return (⟨pattern, fallback⟩ :: params, rest)

def parseStmt (input : List Char) : Option (Stmt × List Char) :=
  if opensExpr input then do
    let (e, rest) ← read .expr input
    let (value, rest) ← read .value rest
    let stmt ← stmtOf? e value
    let rest ← after? ";\n".toList rest
    return (stmt, rest)
  else
    match input with
    | '\n' :: rest => some (.blank, rest)
    | '/' :: '/' :: ' ' :: rest => some (parseComment rest)
    | _ => do
      let (word, rest) ← parseName input
      read (.wordStmt word.text) rest

def parseWordStmt (word : String) (input : List Char) : Option (Stmt × List Char) :=
  if word = "const" then do
    let (pattern, rest) ← read .pattern input.tail
    let (value, rest) ← read .value rest
    let value ← value
    let rest ← after? ";\n".toList rest
    return (.const pattern value, rest)
  else if word = "return" then
    match after? ";\n".toList input with
    | some rest => some (.ret none, rest)
    | none => do
      let (value, rest) ← read .expr input.tail
      let rest ← after? ";\n".toList rest
      return (.ret (some value), rest)
  else do
    let ((name, parent), rest) ← parseHead input.tail
    let rest ← after? " \x7b\n".toList rest
    let (members, rest) ← read .members rest
    let rest ← after? "\x7d\n".toList rest
    return (.classDecl (classWith name parent members), rest)

def parseStmts (input : List Char) : Option (List Stmt × List Char) :=
  match skipBlanks input with
  | [] => some ([], [])
  | '\x7d' :: rest => some ([], '\x7d' :: rest)
  | line => do
    let (stmt, rest) ← read .stmt line
    let (stmts, rest) ← read .stmts rest
    return (stmt :: stmts, rest)

def parseMember (input : List Char) : Option (Member × List Char) := do
  let (isAsync, rest) := parseModifier "async" input
  let (isGetter, rest) := parseModifier "get" rest
  let (name, rest) ← parseName rest
  let rest ← after? ['('] rest
  let (params, rest) ← read .params rest
  let rest ← after? " \x7b\n".toList rest
  let (body, rest) ← read .stmts rest
  let rest ← after? "\x7d\n".toList rest
  return (⟨name, if isGetter then .getter else .method, isAsync, params, body⟩, rest)

def parseMembers (input : List Char) : Option (List Member × List Char) :=
  match input.dropWhile (fun c => c = ' ' ∨ c = '\n') with
  | '\x7d' :: rest => some ([], '\x7d' :: rest)
  | line => do
    let (member, rest) ← read .member line
    let (members, rest) ← read .members rest
    return (member :: members, rest)

/-- **One part**, when there is a reader for the parts in it. -/
def parsePart : Reader
  | .names => parseNames read
  | .pattern => parsePattern read
  | .expr => parseExpr read
  | .suffixes e => parseSuffixes read e
  | .primary => parsePrimary read
  | .named name => parseNamed read name
  | .arrow isAsync => parseArrow read isAsync
  | .exprs close => parseExprs read close
  | .entries => parseEntries read
  | .value => parseValue read
  | .params => parseParams read
  | .stmt => parseStmt read
  | .wordStmt word => parseWordStmt read word
  | .stmts => parseStmts read
  | .member => parseMember read
  | .members => parseMembers read

end

/-! ## Texts -/

/-- The reader that gives up where parts are within each other to some
depth. -/
def readWithin : Nat → Reader
  | 0 => fun _ _ => none
  | depth + 1 => parsePart (readWithin depth)

/-- **What stands at the front of a text is read as something**, and what
stands behind it is left. -/
def Reads (part : Part) (input : List Char) (result : part.Result × List Char) : Prop :=
  ∀ᶠ depth in Filter.atTop, readWithin depth part input = some result

/-- **It is read as one thing only.** -/
theorem Reads.eq {part : Part} {input : List Char} {result other : part.Result × List Char}
    (h : Reads part input result) (h' : Reads part input other) : result = other := by
  obtain ⟨depth, hdepth, hdepth'⟩ := (h.and h').exists
  exact Option.some.inj (hdepth.symm.trans hdepth')

/-- A part is read where it is read with a reader that reads the parts in
it. -/
theorem reads_iff {part : Part} {input : List Char} {result : part.Result × List Char} :
    Reads part input result
      ↔ ∀ᶠ depth in Filter.atTop, parsePart (readWithin depth) part input = some result := by
  rw [Reads, Filter.eventually_atTop, Filter.eventually_atTop]
  constructor
  · rintro ⟨least, hleast⟩
    exact ⟨least, fun depth hdepth => hleast (depth + 1) (Nat.le_succ_of_le hdepth)⟩
  · rintro ⟨least, hleast⟩
    refine ⟨least + 1, fun depth hdepth => ?_⟩
    obtain ⟨depth, rfl⟩ := Nat.exists_eq_add_of_lt (Nat.lt_of_succ_le hdepth)
    exact hleast _ (Nat.le_add_right least depth)

end Playscript.Script
