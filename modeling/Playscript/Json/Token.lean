import Playscript.Text.Hex

/-!
# The tokens of a JSON text

JSON is read strictly: white space is a blank, a tab, a line feed or a
carriage return; a number has no leading zero and a digit on either side
of its point; a string holds no control character and no escape but the
nine of the grammar.

A string token keeps its body as it is written. What an escape stands for
matters only where a string is used, and there is one thing an escape can
be written for that no text can hold: half of a surrogate pair
(`Json.decodeString?`).

Two tokens need no white space between them where the grammar lets them
meet, and it never lets two numbers or two words meet. So cutting the
longest token off the front, again and again, reads every text right.
-/

namespace Playscript.Json

/-- **A token of JSON.** -/
inductive Token where
  /-- `[`. -/
  | leftBracket
  /-- `]`. -/
  | rightBracket
  /-- An opening brace. -/
  | leftBrace
  /-- A closing brace. -/
  | rightBrace
  /-- `:`. -/
  | colon
  /-- `,`. -/
  | comma
  /-- `null`. -/
  | null
  /-- `true` or `false`. -/
  | bool (value : Bool)
  /-- A number as it is written. -/
  | number (lexeme : List Char)
  /-- A string as it is written, without its quotes. -/
  | string (body : List Char)
deriving Repr, DecidableEq

/-- Whether a character is white space between tokens. -/
def isSpace (c : Char) : Bool :=
  c == ' ' || c == '\t' || c == '\n' || c == '\r'

/-- The character that a backslash and a letter stand for. -/
def shortEscape? (letter : Char) : Option Char :=
  if letter = '"' then some '"'
  else if letter = '\\' then some '\\'
  else if letter = '/' then some '/'
  else if letter = 'b' then some '\x08'
  else if letter = 'f' then some '\x0c'
  else if letter = 'n' then some '\n'
  else if letter = 'r' then some '\r'
  else if letter = 't' then some '\t'
  else none

/-- **Cuts the body of a string off the front of a text**, up to the quote
that ends it: the body, and what follows the quote. -/
def scanString? : List Char → Option (List Char × List Char)
  | [] => none
  | '"' :: rest => some ([], rest)
  | '\\' :: 'u' :: a :: b :: c :: d :: rest =>
    if (Text.hexNumber? a b c d).isSome then
      (scanString? rest).map fun (body, rest) =>
        ('\\' :: 'u' :: a :: b :: c :: d :: body, rest)
    else none
  | '\\' :: letter :: rest =>
    if (shortEscape? letter).isSome then
      (scanString? rest).map fun (body, rest) => ('\\' :: letter :: body, rest)
    else none
  | c :: rest =>
    if c = '\\' || c.toNat < 0x20 then none
    else (scanString? rest).map fun (body, rest) => (c :: body, rest)

/-- Cuts a run of digits off the front of a text, at least one. -/
def scanDigits? (cs : List Char) : Option (List Char × List Char) :=
  if (cs.takeWhile Char.isDigit).isEmpty then none
  else some (cs.takeWhile Char.isDigit, cs.dropWhile Char.isDigit)

/-- Cuts a minus off the front of a text if there is one. -/
def scanMinus : List Char → List Char × List Char
  | '-' :: rest => (['-'], rest)
  | rest => ([], rest)

/-- Cuts the whole part of a number off the front of a text. -/
def scanWhole? : List Char → Option (List Char × List Char)
  | '0' :: rest => some (['0'], rest)
  | rest => scanDigits? rest

/-- Cuts a point and digits off the front of a text if there is a
point. -/
def scanFraction? : List Char → Option (List Char × List Char)
  | '.' :: rest => (scanDigits? rest).map fun (digits, rest) => ('.' :: digits, rest)
  | rest => some ([], rest)

/-- Cuts a sign off the front of a text if there is one. -/
def scanSign : List Char → List Char × List Char
  | '+' :: rest => (['+'], rest)
  | '-' :: rest => (['-'], rest)
  | rest => ([], rest)

/-- Cuts an exponent off the front of a text if there is one. -/
def scanExponent? : List Char → Option (List Char × List Char)
  | [] => some ([], [])
  | c :: rest =>
    if c = 'e' || c = 'E' then
      (scanDigits? (scanSign rest).2).map fun (digits, after) =>
        (c :: ((scanSign rest).1 ++ digits), after)
    else some ([], c :: rest)

/-- **Cuts a number off the front of a text.** -/
def scanNumber? (cs : List Char) : Option (List Char × List Char) := do
  let (whole, rest) ← scanWhole? (scanMinus cs).2
  let (fraction, rest) ← scanFraction? rest
  let (exponent, rest) ← scanExponent? rest
  return ((scanMinus cs).1 ++ whole ++ fraction ++ exponent, rest)

/-- **Cuts a token off the front of a text** that does not begin with
white space. -/
def Token.next? : List Char → Option (Token × List Char)
  | [] => none
  | '[' :: rest => some (leftBracket, rest)
  | ']' :: rest => some (rightBracket, rest)
  | '\x7b' :: rest => some (leftBrace, rest)
  | '\x7d' :: rest => some (rightBrace, rest)
  | ':' :: rest => some (colon, rest)
  | ',' :: rest => some (comma, rest)
  | '"' :: rest => (scanString? rest).map fun (body, rest) => (string body, rest)
  | 'n' :: 'u' :: 'l' :: 'l' :: rest => some (null, rest)
  | 't' :: 'r' :: 'u' :: 'e' :: rest => some (bool true, rest)
  | 'f' :: 'a' :: 'l' :: 's' :: 'e' :: rest => some (bool false, rest)
  | rest => (scanNumber? rest).map fun (lexeme, rest) => (number lexeme, rest)

/-! ## What a scan cuts off

A scan takes a beginning of the text and leaves the rest, so it never
loses or invents a character. That a token is never empty is what makes
reading come to an end. -/

theorem append_of_scanString? {cs body rest : List Char}
    (h : scanString? cs = some (body, rest)) : cs = body ++ '"' :: rest := by
  fun_induction scanString? cs generalizing body rest with
  | case1 => cases h
  | case2 =>
    simp only [Option.some.injEq, Prod.mk.injEq] at h
    obtain ⟨rfl, rfl⟩ := h
    rfl
  | case3 a b c d tail hx ih =>
    obtain ⟨⟨body', rest'⟩, hs, he⟩ := Option.map_eq_some_iff.mp h
    simp only [Prod.mk.injEq] at he
    obtain ⟨rfl, rfl⟩ := he
    rw [ih hs]
    rfl
  | case4 => cases h
  | case5 letter tail hne hx ih =>
    obtain ⟨⟨body', rest'⟩, hs, he⟩ := Option.map_eq_some_iff.mp h
    simp only [Prod.mk.injEq] at he
    obtain ⟨rfl, rfl⟩ := he
    rw [ih hs]
    rfl
  | case6 => cases h
  | case7 => cases h
  | case8 c tail _ _ _ hx ih =>
    obtain ⟨⟨body', rest'⟩, hs, he⟩ := Option.map_eq_some_iff.mp h
    simp only [Prod.mk.injEq] at he
    obtain ⟨rfl, rfl⟩ := he
    rw [ih hs]
    rfl

theorem append_of_scanDigits? {cs digits rest : List Char}
    (h : scanDigits? cs = some (digits, rest)) : cs = digits ++ rest ∧ digits ≠ [] := by
  unfold scanDigits? at h
  split at h
  · cases h
  · next hd =>
    simp only [Option.some.injEq, Prod.mk.injEq] at h
    obtain ⟨rfl, rfl⟩ := h
    exact ⟨List.takeWhile_append_dropWhile.symm, by simpa using hd⟩

theorem append_of_scanMinus (cs : List Char) : cs = (scanMinus cs).1 ++ (scanMinus cs).2 := by
  unfold scanMinus
  split <;> rfl

theorem append_of_scanSign (cs : List Char) : cs = (scanSign cs).1 ++ (scanSign cs).2 := by
  unfold scanSign
  split <;> rfl

theorem append_of_scanWhole? {cs whole rest : List Char}
    (h : scanWhole? cs = some (whole, rest)) : cs = whole ++ rest ∧ whole ≠ [] := by
  unfold scanWhole? at h
  split at h
  · simp only [Option.some.injEq, Prod.mk.injEq] at h
    obtain ⟨rfl, rfl⟩ := h
    exact ⟨rfl, by simp⟩
  · exact append_of_scanDigits? h

theorem append_of_scanFraction? {cs fraction rest : List Char}
    (h : scanFraction? cs = some (fraction, rest)) : cs = fraction ++ rest := by
  unfold scanFraction? at h
  split at h
  · obtain ⟨⟨digits, rest'⟩, hs, he⟩ := Option.map_eq_some_iff.mp h
    simp only [Prod.mk.injEq] at he
    obtain ⟨rfl, rfl⟩ := he
    rw [(append_of_scanDigits? hs).1]
    rfl
  · simp only [Option.some.injEq, Prod.mk.injEq] at h
    obtain ⟨rfl, rfl⟩ := h
    rfl

theorem append_of_scanExponent? {cs exponent rest : List Char}
    (h : scanExponent? cs = some (exponent, rest)) : cs = exponent ++ rest := by
  unfold scanExponent? at h
  split at h
  · simp only [Option.some.injEq, Prod.mk.injEq] at h
    obtain ⟨rfl, rfl⟩ := h
    rfl
  · split at h
    · obtain ⟨⟨digits, rest'⟩, hs, he⟩ := Option.map_eq_some_iff.mp h
      simp only [Prod.mk.injEq] at he
      obtain ⟨rfl, rfl⟩ := he
      rw [List.cons_append, List.append_assoc, ← (append_of_scanDigits? hs).1,
        ← append_of_scanSign]
    · simp only [Option.some.injEq, Prod.mk.injEq] at h
      obtain ⟨rfl, rfl⟩ := h
      rfl

/-- A number that was cut off is what stood in front, and it is not
empty. -/
theorem append_of_scanNumber? {cs lexeme rest : List Char}
    (h : scanNumber? cs = some (lexeme, rest)) : cs = lexeme ++ rest ∧ lexeme ≠ [] := by
  have hm := append_of_scanMinus cs
  unfold scanNumber? at h
  simp only [Option.bind_eq_bind, Option.bind_eq_some_iff, Option.pure_def, Option.some.injEq,
    Prod.mk.injEq, Prod.exists] at h
  obtain ⟨whole, after₁, hw, fraction, after₂, hf, exponent, after₃, he, hl, hr⟩ := h
  have hw := append_of_scanWhole? hw
  have hf := append_of_scanFraction? hf
  have he := append_of_scanExponent? he
  subst hl hr
  rw [hw.1, hf, he] at hm
  exact ⟨by simpa using hm, by simp [hw.2]⟩

/-- **What is left after a token is shorter.** -/
theorem Token.length_of_next? {cs rest : List Char} {token : Token}
    (h : Token.next? cs = some (token, rest)) : rest.length < cs.length := by
  unfold Token.next? at h
  split at h
  case h_1 => cases h
  case h_8 tail =>
    obtain ⟨⟨body, rest'⟩, hs, he⟩ := Option.map_eq_some_iff.mp h
    simp only [Prod.mk.injEq] at he
    obtain ⟨_, rfl⟩ := he
    rw [append_of_scanString? hs]
    simp
    omega
  case h_12 =>
    obtain ⟨⟨lexeme, rest'⟩, hs, he⟩ := Option.map_eq_some_iff.mp h
    simp only [Prod.mk.injEq] at he
    obtain ⟨_, rfl⟩ := he
    obtain ⟨ha, hn⟩ := append_of_scanNumber? hs
    rw [ha, List.length_append]
    have := List.length_pos_iff.mpr hn
    omega
  all_goals
    simp only [Option.some.injEq, Prod.mk.injEq] at h
    obtain ⟨_, rfl⟩ := h
    simp only [List.length_cons]
    omega

/-- **All tokens of a text**, or nothing when something in it is no
token. -/
def tokenize? (cs : List Char) : Option (List Token) :=
  match cs with
  | [] => some []
  | c :: rest =>
    if isSpace c then tokenize? rest
    else
      match _h : Token.next? (c :: rest) with
      | none => none
      | some (token, rest) => (tokenize? rest).map (token :: ·)
termination_by cs.length
decreasing_by
  · simp
  · exact Token.length_of_next? _h

end Playscript.Json
