import Playscript.Json.Text

/-!
# JSON values

A value is put together from tokens by a machine with a stack: the stack
holds the containers that are open, innermost first, each with what it
holds so far. Every step takes at least one token, so the machine needs no
other bound than the list of tokens.

Strings and keys keep their bodies as written and numbers their digits,
so a value can be read over whatever its strings and numbers hold; who
uses one decides whether it is good.
-/

namespace Playscript

/-- **A JSON value**, its strings and numbers as they are written and its
members in order, repeated keys included. -/
inductive Json where
  /-- `null`. -/
  | null
  /-- `true` or `false`. -/
  | bool (value : Bool)
  /-- A number. -/
  | number (lexeme : List Char)
  /-- A string. -/
  | string (body : List Char)
  /-- An array. -/
  | array (items : List Json)
  /-- An object. -/
  | object (members : List (List Char × Json))

namespace Json

/-- **A container that is open**, with what it holds so far, last first. -/
inductive Frame where
  /-- An array. -/
  | array (items : List Json)
  /-- An object that waits for the value of a key. -/
  | object (members : List (List Char × Json)) (key : List Char)

mutual

/-- Reads the tokens of a value, and all that follows, into the open
containers. -/
def readValue? (stack : List Frame) : List Token → Option Json
  | .null :: rest => readNext? stack .null rest
  | .bool value :: rest => readNext? stack (.bool value) rest
  | .number lexeme :: rest => readNext? stack (.number lexeme) rest
  | .string body :: rest => readNext? stack (.string body) rest
  | .leftBracket :: .rightBracket :: rest => readNext? stack (.array []) rest
  | .leftBracket :: rest => readValue? (.array [] :: stack) rest
  | .leftBrace :: .rightBrace :: rest => readNext? stack (.object []) rest
  | .leftBrace :: .string key :: .colon :: rest => readValue? (.object [] key :: stack) rest
  | _ => none

/-- Puts a value into the innermost open container and reads on; the value
is the answer when none is open and no token is left. -/
def readNext? : List Frame → Json → List Token → Option Json
  | [], value, [] => some value
  | .array items :: stack, value, .comma :: rest =>
    readValue? (.array (value :: items) :: stack) rest
  | .array items :: stack, value, .rightBracket :: rest =>
    readNext? stack (.array (value :: items).reverse) rest
  | .object members key :: stack, value, .comma :: .string next :: .colon :: rest =>
    readValue? (.object ((key, value) :: members) next :: stack) rest
  | .object members key :: stack, value, .rightBrace :: rest =>
    readNext? stack (.object ((key, value) :: members).reverse) rest
  | _, _, _ => none

end

/-- **Reads a text as a JSON value.** -/
def parse? (text : String) : Option Json := do
  let tokens ← tokenize? text.toList
  readValue? [] tokens

/-! ## Reading what a value holds -/

/-- The text of a string. -/
def asString? : Json → Option String
  | string body => decodeString? body
  | _ => none

/-- The items of an array. -/
def asArray? : Json → Option (List Json)
  | array items => some items
  | _ => none

/-- The members of an object, their keys as texts. -/
def asObject? : Json → Option (List (String × Json))
  | object members => members.mapM fun (key, value) => (decodeString? key).map (·, value)
  | _ => none

/-- An array of strings. -/
def asStrings? (value : Json) : Option (List String) := do
  (← value.asArray?).mapM asString?

/-- An object whose values are all read in one way. -/
def asTable? {α : Type} (read : Json → Option α) (value : Json) : Option (List (String × α)) := do
  (← value.asObject?).mapM fun (key, value) => (read value).map (key, ·)

/-- **The value of a key that stands at most once** among the members:
nothing when it is repeated, and otherwise the value if there is one. -/
def onlyMember? (members : List (String × Json)) (key : String) : Option (Option Json) :=
  match members.filter (·.1 = key) with
  | [] => some none
  | [member] => some (some member.2)
  | _ => none

end Json

end Playscript
