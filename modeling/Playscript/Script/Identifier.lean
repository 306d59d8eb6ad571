/-!
# Identifiers of a script

A name in a script is a word of ASCII letters, digits, `_` and `$` that
does not begin with a digit and is not reserved. `Identifier.check` reads
a text as an identifier or says what is wrong with it; `legalize` mends
it instead. `Identifier` itself carries any text: a tree that comes from
elsewhere may hold names nobody checked, and it is printed all the same.
-/

namespace Playscript.Script

/-- **A name in a script**, checked or not. -/
structure Identifier where
  /-- The name as it is written. -/
  text : String
deriving Repr, DecidableEq

/-- What is wrong with a text that is not an identifier. -/
inductive NameDefect where
  /-- There is nothing. -/
  | empty
  /-- It begins with a digit. -/
  | leadingDigit
  /-- It holds a character that is no part of a name. -/
  | badCharacter (c : Char)
  /-- It is a word of the language. -/
  | reserved
deriving Repr, DecidableEq

namespace NameDefect

/-- The defect in words. -/
def reason : NameDefect → String
  | empty => "identifier cannot be empty"
  | leadingDigit => "identifier cannot start with a digit"
  | badCharacter c => "invalid character '" ++ String.ofList [c] ++ "'"
  | reserved => "reserved word"

end NameDefect

/-- **Why a piece of a script cannot be built.** -/
inductive BuildError where
  /-- A text stands where an identifier is needed. -/
  | invalidIdentifier (name : String) (defect : NameDefect)
  /-- Two members of a class have one name. -/
  | duplicateMember (className member : String)
deriving Repr, DecidableEq

namespace BuildError

/-- The error in words. -/
def message : BuildError → String
  | invalidIdentifier name defect => "Invalid identifier '" ++ name ++ "': " ++ defect.reason
  | duplicateMember className member =>
    "Duplicate member '" ++ member ++ "' in class '" ++ className ++ "'"

end BuildError

namespace Identifier

/-- **The reserved words.** -/
def reservedWords : List String := [
  "break", "case", "catch", "continue", "debugger", "default", "delete", "do", "else",
  "finally", "for", "function", "if", "in", "instanceof", "new", "return", "switch", "this",
  "throw", "try", "typeof", "var", "void", "while", "with", "class", "const", "enum", "export",
  "extends", "import", "super", "implements", "interface", "let", "package", "private",
  "protected", "public", "static", "yield", "await", "null", "true", "false"]

/-- The name given to a text of which nothing can be used. -/
def placeholder : String := "element"

/-- Whether a character may stand in a name. -/
def isNameChar (c : Char) : Bool :=
  c.isAlphanum || c == '_' || c == '$'

/-- **The first thing that is wrong with a text**, in the order in which
defects are looked for. -/
def defect? (name : String) : Option NameDefect :=
  match name.toList with
  | [] => some .empty
  | first :: rest =>
    if first.isDigit then some .leadingDigit
    else match (first :: rest).find? (!isNameChar ·) with
      | some c => some (.badCharacter c)
      | none => if reservedWords.contains name then some .reserved else none

/-- **Reads a text as an identifier.** -/
def check (name : String) : Except BuildError Identifier :=
  match defect? name with
  | some defect => .error (.invalidIdentifier name defect)
  | none => .ok ⟨name⟩

/-- Whether nothing is wrong with an identifier. -/
def isValid (name : Identifier) : Bool :=
  (defect? name.text).isNone

/-- **Mends a text so that it is an identifier**: characters that cannot
stand are dropped, `_` is put before a leading digit and after a reserved
word, and a text that loses everything becomes `element`. -/
def legalize (raw : String) : Identifier :=
  let kept := raw.toList.filter isNameChar
  let kept := if kept.isEmpty then placeholder.toList else kept
  let led := if kept.head?.any Char.isDigit then '_' :: kept else kept
  let name := String.ofList led
  ⟨if reservedWords.contains name then name ++ "_" else name⟩

end Identifier

end Playscript.Script
