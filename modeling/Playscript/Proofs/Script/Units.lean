import Playscript.Json.Text

/-!
# Code units

To a script a text is a list of code units. A character below 65536 is one unit,
and one above is two, a high surrogate and a low one. No character is a
surrogate itself, and so the units of a text can be read back, from the left
and in one way only (`Text.ofUnits?_unitsOf`).
-/

namespace Playscript.Text

open Json (isHighSurrogate isLowSurrogate joinSurrogates)

/-- **The code units of a character.** -/
def units (c : Char) : List Nat :=
  if c.toNat < 0x10000 then [c.toNat]
  else [0xD800 + (c.toNat - 0x10000) / 0x400, 0xDC00 + (c.toNat - 0x10000) % 0x400]

/-- **The code units of a text.** -/
def unitsOf (cs : List Char) : List Nat :=
  cs.flatMap units

/-- **The text that code units make up**, if no surrogate among them is without
its other half. -/
def ofUnits? : List Nat → Option (List Char)
  | [] => some []
  | unit :: rest =>
    if isHighSurrogate unit then
      match rest with
      | low :: rest =>
        if isLowSurrogate low then (ofUnits? rest).map (joinSurrogates unit low :: ·) else none
      | [] => none
    else if isLowSurrogate unit then none
    else (ofUnits? rest).map (Char.ofNat unit :: ·)

/-- A character is a number up to the last plane, and no surrogate. -/
theorem toNat_range (c : Char) : c.toNat < 0xD800 ∨ 0xDFFF < c.toNat ∧ c.toNat < 0x110000 :=
  c.valid

theorem units_of_lt {c : Char} (h : c.toNat < 0x10000) : units c = [c.toNat] := if_pos h

/-- **A character is read off its units.** -/
theorem ofUnits?_units_append (c : Char) (rest : List Nat) :
    ofUnits? (units c ++ rest) = (ofUnits? rest).map (c :: ·) := by
  have hrange := toNat_range c
  unfold units
  split
  · next hlt =>
    have hhigh : isHighSurrogate c.toNat = false := by simp [isHighSurrogate]; omega
    have hlow : isLowSurrogate c.toNat = false := by simp [isLowSurrogate]; omega
    rw [List.singleton_append, ofUnits?.eq_def]
    dsimp only
    rw [hhigh, hlow, if_neg Bool.false_ne_true, if_neg Bool.false_ne_true, Char.ofNat_toNat]
  · next hge =>
    obtain ⟨n, hn⟩ : ∃ n, c.toNat = 0x10000 + n := ⟨c.toNat - 0x10000, by omega⟩
    have hsub : c.toNat - 0x10000 = n := by omega
    rw [hsub]
    have hhigh : isHighSurrogate (0xD800 + n / 0x400) = true := by simp [isHighSurrogate]; omega
    have hlow : isLowSurrogate (0xDC00 + n % 0x400) = true := by simp [isLowSurrogate]; omega
    have hjoin : joinSurrogates (0xD800 + n / 0x400) (0xDC00 + n % 0x400) = c := by
      have hnumber : 0x10000 + (0xD800 + n / 0x400 - 0xD800) * 0x400
          + (0xDC00 + n % 0x400 - 0xDC00) = c.toNat := by omega
      rw [joinSurrogates, hnumber, Char.ofNat_toNat]
    show ofUnits? ((0xD800 + n / 0x400) :: (0xDC00 + n % 0x400) :: rest) = _
    rw [ofUnits?, if_pos hhigh, if_pos hlow, hjoin]

/-- **A text is read off its units.** -/
theorem ofUnits?_unitsOf (cs : List Char) : ofUnits? (unitsOf cs) = some cs := by
  induction cs with
  | nil => rfl
  | cons c cs ih =>
    show ofUnits? (units c ++ unitsOf cs) = _
    rw [ofUnits?_units_append, ih]
    rfl

end Playscript.Text
