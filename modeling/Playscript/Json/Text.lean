import Playscript.Json.Token

/-!
# The text of a JSON string

What the body of a string stands for, and how a text is written as a
string. A character beyond the first 65536 may be written as two escapes
that belong together, a high and a low surrogate; either of them alone
stands for no character, and such a body has no text.
-/

namespace Playscript.Json

/-- Whether a number is the first of two surrogates. -/
def isHighSurrogate (n : Nat) : Bool :=
  0xD800 ≤ n && n ≤ 0xDBFF

/-- Whether a number is the second of two surrogates. -/
def isLowSurrogate (n : Nat) : Bool :=
  0xDC00 ≤ n && n ≤ 0xDFFF

/-- The character that two surrogates stand for. -/
def joinSurrogates (high low : Nat) : Char :=
  Char.ofNat (0x10000 + (high - 0xD800) * 0x400 + (low - 0xDC00))

/-- **The text that the body of a string stands for**, if it stands for
one. -/
def decode? : List Char → Option (List Char)
  | [] => some []
  | '\\' :: 'u' :: a :: b :: c :: d :: rest =>
    match Text.hexNumber? a b c d with
    | none => none
    | some n =>
      if isHighSurrogate n then
        match rest with
        | '\\' :: 'u' :: e :: f :: g :: h :: rest =>
          match Text.hexNumber? e f g h with
          | none => none
          | some m =>
            if isLowSurrogate m then (decode? rest).map (joinSurrogates n m :: ·) else none
        | _ => none
      else if isLowSurrogate n then none
      else (decode? rest).map (Char.ofNat n :: ·)
  | '\\' :: letter :: rest =>
    match shortEscape? letter with
    | none => none
    | some c => (decode? rest).map (c :: ·)
  | c :: rest => (decode? rest).map (c :: ·)

/-- The text of a string body as a string. -/
def decodeString? (body : List Char) : Option String :=
  (decode? body).map String.ofList

/-- **A character in the body of a string**: what must be escaped is, by the
shortest escape there is. -/
def escapeChar (c : Char) : List Char :=
  if c = '"' then ['\\', '"']
  else if c = '\\' then ['\\', '\\']
  else if c = '\x08' then ['\\', 'b']
  else if c = '\x0c' then ['\\', 'f']
  else if c = '\n' then ['\\', 'n']
  else if c = '\r' then ['\\', 'r']
  else if c = '\t' then ['\\', 't']
  else if c.toNat < 0x20 then '\\' :: 'u' :: Text.hexDigits c.toNat
  else [c]

/-- The body of the string that stands for a text. -/
def escape (cs : List Char) : List Char :=
  cs.flatMap escapeChar

/-- **A text as a JSON string.** -/
def quote (text : String) : List Char :=
  '"' :: (escape text.toList ++ ['"'])

end Playscript.Json
