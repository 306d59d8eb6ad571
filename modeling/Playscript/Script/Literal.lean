import Playscript.Text.Hex
import Playscript.Text.Words

/-!
# Literals and comments of a script

How a text is written so that it stays text: inside double quotes, as a
regular expression that matches it and nothing else, and behind `//`.

Four characters end a line of a script (`isLineEnd`), two of them outside
ASCII. None of them may stand in a string or in a regular expression, so
both writings replace them; a comment that holds one is written on
several lines instead.
-/

namespace Playscript.Script

/-- Whether a character ends a line. -/
def isLineEnd (c : Char) : Bool :=
  c == '\n' || c == '\r' || c == '\u2028' || c == '\u2029'

/-- A character as four hexadecimal digits behind `\u`. -/
def unicodeEscape (c : Char) : List Char :=
  '\\' :: 'u' :: Text.hexDigits c.toNat

/-! ## Strings -/

/-- A character inside double quotes. -/
def escapeChar (c : Char) : List Char :=
  if c = '"' then ['\\', '"']
  else if c = '\\' then ['\\', '\\']
  else if c = '\n' then ['\\', 'n']
  else if c = '\r' then ['\\', 'r']
  else if c = '\t' then ['\\', 't']
  else if c = '\u2028' || c = '\u2029' || Text.isControl c then unicodeEscape c
  else [c]

/-- **A text inside double quotes**, the quotes left out. -/
def escape (cs : List Char) : List Char :=
  cs.flatMap escapeChar

/-- A text inside double quotes, as a string. -/
def escapeText (text : String) : String :=
  String.ofList (escape text.toList)

/-- A text as a string literal. -/
def quote (text : String) : List Char :=
  '"' :: (escape text.toList ++ ['"'])

/-! ## Regular expressions -/

/-- Whether a character has a meaning of its own in a regular
expression. -/
def isMeta (c : Char) : Bool :=
  ['\\', '^', '$', '.', '|', '?', '*', '+', '(', ')', '[', ']', '\x7b', '\x7d', '/'].contains c

/-- A character in a regular expression that is to match it. -/
def regexChar (c : Char) : List Char :=
  if isMeta c then ['\\', c]
  else if c = '\n' then ['\\', 'n']
  else if c = '\r' then ['\\', 'r']
  else if c = '\u2028' || c = '\u2029' then unicodeEscape c
  else [c]

/-- **The body of the regular expression that matches a text literally.** -/
def regexBody (text : String) : String :=
  String.ofList (text.toList.flatMap regexChar)

/-- A body between slashes. An empty one is written as an empty group,
since two slashes would begin a comment. -/
def slashed (body : String) : List Char :=
  '/' :: ((if body = "" then "(?:)".toList else body.toList) ++ ['/'])

/-! ## Comments -/

/-- **The lines of a comment.** A carriage return with a line feed behind
it is one line end. -/
def commentLines : List Char → List (List Char)
  | [] => [[]]
  | '\r' :: '\n' :: rest => [] :: commentLines rest
  | c :: rest =>
    if isLineEnd c then [] :: commentLines rest else (commentLines rest).modifyHead (c :: ·)

end Playscript.Script
