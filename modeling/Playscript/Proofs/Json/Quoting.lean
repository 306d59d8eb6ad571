import Playscript.Json.Text

/-!
# Quoted texts read back

A text that is written as a JSON string is found again by the scanner and
decoded to itself. Both readings follow the escaped text one character of
the *original* at a time, so all that has to be known about escaping is
the three forms a character can take (`escapeChar_cases`); neither reader
is told how many characters it has to look at.

The scanner has a second duty that decoding does not have: it must stop at
the quote that ends the string and not at one that belongs to the text.
This is why its statement carries an arbitrary rest.
-/

namespace Playscript.Json

/-! ## One character -/

/-- **The three ways to write a character of a string**: a short escape,
four digits behind `\u`, or the character itself. -/
theorem escapeChar_cases (c : Char) :
    (∃ letter, escapeChar c = ['\\', letter] ∧ shortEscape? letter = some c)
      ∨ (escapeChar c = '\\' :: 'u' :: Text.hexDigits c.toNat ∧ c.toNat < 0x20)
      ∨ (escapeChar c = [c] ∧ c ≠ '"' ∧ c ≠ '\\' ∧ ¬ c.toNat < 0x20) := by
  unfold escapeChar
  split
  · next h => exact Or.inl ⟨'"', rfl, by rw [h]; rfl⟩
  split
  · next h => exact Or.inl ⟨'\\', rfl, by rw [h]; rfl⟩
  split
  · next h => exact Or.inl ⟨'b', rfl, by rw [h]; rfl⟩
  split
  · next h => exact Or.inl ⟨'f', rfl, by rw [h]; rfl⟩
  split
  · next h => exact Or.inl ⟨'n', rfl, by rw [h]; rfl⟩
  split
  · next h => exact Or.inl ⟨'r', rfl, by rw [h]; rfl⟩
  split
  · next h => exact Or.inl ⟨'t', rfl, by rw [h]; rfl⟩
  split
  · next h => exact Or.inr (Or.inl ⟨rfl, h⟩)
  · next hquote hslash _ _ _ _ _ hcontrol =>
    exact Or.inr (Or.inr ⟨rfl, hquote, hslash, hcontrol⟩)

/-- A short escape is never taken for the beginning of a long one. -/
theorem ne_of_shortEscape? {letter c : Char} (h : shortEscape? letter = some c) :
    letter ≠ 'u' := by
  rintro rfl
  cases h

/-- A number that is written by four digits is no surrogate. -/
theorem not_isSurrogate_of_lt {n : Nat} (h : n < 0x20) :
    isHighSurrogate n = false ∧ isLowSurrogate n = false := by
  unfold isHighSurrogate isLowSurrogate
  simp only [Bool.and_eq_false_iff, decide_eq_false_iff_not]
  omega

/-- An escaped character decodes to itself, whatever follows it. -/
theorem decode?_escapeChar_append (c : Char) (rest : List Char) :
    decode? (escapeChar c ++ rest) = (decode? rest).map (c :: ·) := by
  rcases escapeChar_cases c with ⟨letter, hw, hs⟩ | ⟨hw, hlt⟩ | ⟨hw, -, hslash, -⟩
  · rw [hw, List.cons_append, List.singleton_append, decode?]
    · rw [hs]
    · intro _ _ _ _ _ h _
      exact ne_of_shortEscape? hs h
  · obtain ⟨hhigh, hlow⟩ := not_isSurrogate_of_lt hlt
    rw [hw]
    show decode? ('\\' :: 'u' :: Text.hexDigit _ :: Text.hexDigit _ :: Text.hexDigit _
      :: Text.hexDigit _ :: rest) = _
    rw [decode?, Text.hexNumber?_hexDigits (by omega)]
    simp only [hhigh, hlow, Bool.false_eq_true, if_false, Char.ofNat_toNat]
  · rw [hw, List.singleton_append, decode?]
    · intro _ _ _ _ _ h
      exact absurd h hslash
    · intro _ _ h
      exact absurd h hslash

/-- The scanner takes an escaped character as a whole, whatever follows
it. -/
theorem scanString?_escapeChar_append (c : Char) (rest : List Char) :
    scanString? (escapeChar c ++ rest)
      = (scanString? rest).map fun found => (escapeChar c ++ found.1, found.2) := by
  rcases escapeChar_cases c with ⟨letter, hw, hs⟩ | ⟨hw, hlt⟩ | ⟨hw, hquote, hslash, hcontrol⟩
  · rw [hw, List.cons_append, List.singleton_append, scanString?]
    · rw [hs]
      rfl
    · intro _ _ _ _ _ h _
      exact ne_of_shortEscape? hs h
  · rw [hw]
    show scanString? ('\\' :: 'u' :: Text.hexDigit _ :: Text.hexDigit _ :: Text.hexDigit _
      :: Text.hexDigit _ :: rest) = _
    rw [scanString?, Text.hexNumber?_hexDigits (by omega)]
    rfl
  · rw [hw, List.singleton_append, scanString?]
    · rw [if_neg (by simp [hslash, hcontrol])]
      rfl
    · exact hquote
    · intro _ _ _ _ _ h
      exact absurd h hslash
    · intro _ _ h
      exact absurd h hslash

/-! ## A whole text -/

/-- **A text that is escaped decodes to itself.** -/
@[simp] theorem decode?_escape (cs : List Char) : decode? (escape cs) = some cs := by
  induction cs with
  | nil => rfl
  | cons c cs ih =>
    show decode? (escapeChar c ++ escape cs) = _
    rw [decode?_escapeChar_append, ih]
    rfl

/-- The body of a quoted text stands for the text. -/
@[simp] theorem decodeString?_escape (text : String) :
    decodeString? (escape text.toList) = some text := by
  rw [decodeString?, decode?_escape, Option.map_some, String.ofList_toList]

/-- **An escaped text ends where it was ended**: the scanner passes over
every quote of the text and stops at the first that is not part of it. -/
theorem scanString?_escape_append (cs rest : List Char) :
    scanString? (escape cs ++ '"' :: rest) = some (escape cs, rest) := by
  induction cs with
  | nil => rfl
  | cons c cs ih =>
    show scanString? (escapeChar c ++ escape cs ++ '"' :: rest) = _
    rw [List.append_assoc, scanString?_escapeChar_append, ih]
    rfl

end Playscript.Json
