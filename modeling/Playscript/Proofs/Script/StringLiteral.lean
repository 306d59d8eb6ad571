import Mathlib.Logic.Function.Defs
import Playscript.Proofs.Script.Literal
import Playscript.Proofs.Script.Units
import Playscript.Script.Printer

/-!
# What a string literal stands for

The rules by which a script reads the text between double quotes: a backslash
with a letter stands for a character, a backslash with `u` and four digits for a
code unit, and any other character for itself. A quote ends the literal, and a
line end may not stand in it. What is read are code units, and only they make up
a text, so that a surrogate that is written with digits needs its other half.

Escaping a text and reading it by these rules gives the text back, whatever its
characters are and whatever follows them (`escapeText_faithful`). For where a
replacement begins and where it ends is settled by its first two characters, and
what stands behind it is not looked at.
-/

namespace Playscript.Script

/-- **Reads a string from behind its opening quote**: its code units, and what
stands behind the quote that ends it. Escapes other than those with four digits,
of marks and of blanks are refused. -/
def readUnits? : List Char → Option (List Nat × List Char)
  | [] => none
  | '"' :: rest => some ([], rest)
  | '\\' :: 'u' :: a :: b :: c :: d :: rest =>
    match Text.hexNumber? a b c d with
    | none => none
    | some n => (readUnits? rest).map fun found => (n :: found.1, found.2)
  | '\\' :: letter :: rest =>
    match shortEscape? letter with
    | none => none
    | some c => (readUnits? rest).map fun found => (Text.units c ++ found.1, found.2)
  | c :: rest =>
    if isLineEnd c then none
    else (readUnits? rest).map fun found => (Text.units c ++ found.1, found.2)

/-- **The text that stands between quotes**, if there is nothing else between
them. -/
def decode? (body : List Char) : Option (List Char) :=
  match readUnits? (body ++ ['"']) with
  | some (units, []) => Text.ofUnits? units
  | _ => none

/-- **Reads a string at the front of a text**, and what stands behind it. -/
def readString? : List Char → Option (List Char × List Char)
  | '"' :: rest => do
    let (units, rest) ← readUnits? rest
    return (← Text.ofUnits? units, rest)
  | _ => none

/-- A replacement is read as the units of its character. -/
theorem readUnits?_escapeChar (c : Char) (rest : List Char) :
    readUnits? (escapeChar c ++ rest)
      = (readUnits? rest).map fun found => (Text.units c ++ found.1, found.2) := by
  rcases escapeChar_cases c with ⟨letter, hw, hletter, -⟩ | ⟨hw, hlt⟩ |
    ⟨hw, hquote, hslash, hend, -⟩
  · rw [hw, List.cons_append, List.singleton_append, readUnits?, hletter]
    -- a short escape is not the one with four digits
    rintro _ _ _ _ _ rfl
    cases hletter
  · rw [hw, Text.units_of_lt hlt]
    show readUnits? ('\\' :: 'u' :: Text.hexDigit _ :: Text.hexDigit _ :: Text.hexDigit _
      :: Text.hexDigit _ :: rest) = _
    rw [readUnits?, Text.hexNumber?_hexDigits hlt]
    rfl
  · rw [hw, List.singleton_append, readUnits?, hend, if_neg Bool.false_ne_true]
    · exact hquote
    · exact fun _ _ _ _ _ h => absurd h hslash
    · exact fun _ _ h => absurd h hslash

/-- **What is escaped is read up to the quote behind it**, and as the units of the
text. -/
theorem readUnits?_escape (cs rest : List Char) :
    readUnits? (escape cs ++ '"' :: rest) = some (Text.unitsOf cs, rest) := by
  induction cs with
  | nil => rfl
  | cons c cs ih =>
    show readUnits? (escapeChar c ++ escape cs ++ '"' :: rest) = _
    rw [List.append_assoc, readUnits?_escapeChar, ih]
    rfl

theorem decode?_escape (cs : List Char) : decode? (escape cs) = some cs := by
  rw [decode?, readUnits?_escape]
  exact Text.ofUnits?_unitsOf cs

theorem readString?_quote (text : String) (rest : List Char) :
    readString? (quote text ++ rest) = some (text.toList, rest) := by
  show readString? ('"' :: (escape text.toList ++ ['"'] ++ rest)) = _
  rw [readString?, List.append_assoc, List.singleton_append, readUnits?_escape]
  show (Text.ofUnits? (Text.unitsOf text.toList) >>= fun value => some (value, rest)) = _
  rw [Text.ofUnits?_unitsOf]
  rfl

/-- **A written string holds no control character.** -/
theorem isControl_of_mem_escape {cs : List Char} {d : Char} (h : d ∈ escape cs) :
    Text.isControl d = false := by
  obtain ⟨c, -, hd⟩ := List.mem_flatMap.mp h
  rcases escapeChar_cases c with ⟨letter, hw, -, -, hletter⟩ | ⟨hw, -⟩ | ⟨hw, -, -, -, hc⟩ <;>
    rw [hw] at hd
  · exact of_mem_backslash (p := (Text.isControl · = false)) rfl hletter hd
  · rcases List.mem_append.mp (show d ∈ ['\\', 'u'] ++ Text.hexDigits c.toNat from hd) with hd | hd
    · exact forall_mem_of_all (p := (Text.isControl · = false)) (by decide) d hd
    · exact of_mem_hexDigits (p := (Text.isControl · = false)) (by decide) hd
  · rwa [List.mem_singleton.mp hd]

theorem toList_escapeText (text : String) : (escapeText text).toList = escape text.toList :=
  String.toList_ofList

/-- **Escaping is a faithful code.** What is written for a text stands for that
text, it holds no quote that would end it, no backslash that would take in the
quote behind it and no control character, and no two texts are written alike. As
it stands in a script, the literal ends where it was ended. -/
theorem escapeText_faithful :
    (∀ text : String, decode? (escapeText text).toList = some text.toList
        ∧ Guarded '"' (escapeText text).toList
        ∧ ∀ c ∈ (escapeText text).toList, isLineEnd c = false ∧ Text.isControl c = false)
      ∧ Function.Injective escapeText
      ∧ ∀ (text : String) (depth : Nat) (rest : List Char),
        readString? (writeExpr depth (.str text) ++ rest) = some (text.toList, rest) := by
  refine ⟨fun text => ?_, fun text other h => ?_, fun text depth rest => ?_⟩
  · rw [toList_escapeText]
    exact ⟨decode?_escape _, guarded_escape _, fun c hc =>
      ⟨isLineEnd_of_mem_escape hc, isControl_of_mem_escape hc⟩⟩
  · have hdecode := decode?_escape text.toList
    rw [← toList_escapeText, h, toList_escapeText, decode?_escape] at hdecode
    exact (String.toList_inj.mp (Option.some.inj hdecode)).symm
  · show readString? (quote text ++ rest) = _
    exact readString?_quote text rest

end Playscript.Script
