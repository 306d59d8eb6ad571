import Playscript.Proofs.Script.Literal
import Playscript.Proofs.Script.Units
import Playscript.Script.Build
import Playscript.Script.Printer

/-!
# What a regular expression matches

A regular expression is read twice. First its end is looked for: a slash that no
backslash takes in and that stands in no class, before the line ends. What is in
front of it is then read as a pattern, whose terms are code units that match
themselves, groups, and marks that match something else or something more.

The expression that is to match a text has only terms of the first kind, and their
units are those of the text (`matching_isLiteral`). With nothing to match there
would be nothing between the slashes, and two of them begin a comment; an empty
group stands there instead.
-/

namespace Playscript.Script

/-! ## Where a regular expression ends -/

/-- **Reads a regular expression from behind its first slash**: the body, and what
stands behind the slash that ends it. Within a class a slash ends nothing. -/
def readBody? (inClass : Bool) : List Char → Option (List Char × List Char)
  | [] => none
  | '\\' :: c :: rest =>
    if isLineEnd c then none
    else (readBody? inClass rest).map fun found => ('\\' :: c :: found.1, found.2)
  | c :: rest =>
    if isLineEnd c || c == '\\' then none
    else if c == '/' && !inClass then some ([], rest)
    else
      (readBody? (c == '[' || inClass && c != ']') rest).map fun found => (c :: found.1, found.2)

/-- **Reads a regular expression at the front of a text**, and what stands behind
it. With another slash or with a star it would be a comment. -/
def readRegex? : List Char → Option (List Char × List Char)
  | '/' :: '/' :: _ => none
  | '/' :: '*' :: _ => none
  | '/' :: rest => readBody? false rest
  | _ => none

theorem readBody?_escaped {c : Char} (h : isLineEnd c = false) (rest : List Char) :
    readBody? false ('\\' :: c :: rest)
      = (readBody? false rest).map fun found => ('\\' :: c :: found.1, found.2) := by
  rw [readBody?, h, if_neg Bool.false_ne_true]

/-- Characters that are none of those that count. -/
theorem readBody?_plain {text : List Char}
    (h : ∀ c ∈ text, isLineEnd c = false ∧ c ≠ '\\' ∧ c ≠ '/' ∧ c ≠ '[') (rest : List Char) :
    readBody? false (text ++ rest)
      = (readBody? false rest).map fun found => (text ++ found.1, found.2) := by
  induction text with
  | nil => exact Option.map_id'.symm ▸ rfl
  | cons c text ih =>
    obtain ⟨⟨hend, hescape, hslash, hclass⟩, hrest⟩ := List.forall_mem_cons.mp h
    have hstep : readBody? false (c :: (text ++ rest))
        = (readBody? false (text ++ rest)).map fun found => (c :: found.1, found.2) := by
      rw [readBody?]
      · simp only [hend, beq_eq_false_iff_ne.mpr hescape, beq_eq_false_iff_ne.mpr hslash,
          beq_eq_false_iff_ne.mpr hclass, Bool.or_false, Bool.false_and, Bool.false_eq_true,
          if_false]
      · exact fun _ _ h => absurd h hescape
    rw [List.cons_append, hstep, ih hrest, Option.map_map]
    rfl

/-- **A replacement is no end**, whatever follows it. -/
theorem readBody?_regexChar (c : Char) (rest : List Char) :
    readBody? false (regexChar c ++ rest)
      = (readBody? false rest).map fun found => (regexChar c ++ found.1, found.2) := by
  rcases regexChar_cases c with ⟨letter, hw, -, hend⟩ | ⟨hw, -⟩ | ⟨hw, hmeta, hend⟩
  · rw [hw]
    exact readBody?_escaped hend rest
  · have hdigits : ∀ d ∈ Text.hexDigits c.toNat,
        isLineEnd d = false ∧ d ≠ '\\' ∧ d ≠ '/' ∧ d ≠ '[' := fun d hd =>
      have hname := isNameChar_of_mem_hexDigits hd
      ⟨isLineEnd_of_isNameChar hname, ne_of_isNameChar hname rfl, ne_of_isNameChar hname rfl,
        ne_of_isNameChar hname rfl⟩
    rw [hw, unicodeEscape, List.cons_append, List.cons_append, readBody?_escaped rfl,
      readBody?_plain hdigits, Option.map_map]
    rfl
  · rw [hw]
    exact readBody?_plain (List.forall_mem_singleton.mpr
      ⟨hend, ne_of_isMeta hmeta rfl, ne_of_isMeta hmeta rfl, ne_of_isMeta hmeta rfl⟩) rest

/-- **What is written for a text is read up to the slash behind it.** -/
theorem readBody?_regexText (text : String) (rest : List Char) :
    readBody? false (regexText (regexBody text) ++ '/' :: rest)
      = some (regexText (regexBody text), rest) := by
  rw [regexText_regexBody]
  split
  · exact readBody?_plain (forall_mem_of_all (by decide)) ('/' :: rest)
  · induction text.toList with
    | nil => rfl
    | cons c cs ih =>
      rw [List.flatMap_cons, List.append_assoc, readBody?_regexChar, ih]
      rfl

/-! ## What a pattern is made of -/

/-- **A term of a pattern.** What the marks do to each other, as in a class or in
front of a star, is not looked into: one that is left over is one too many. -/
inductive Term where
  /-- A code unit that matches itself. -/
  | literal (unit : Nat)
  /-- A group, which may or may not keep what it matches. -/
  | group (captures : Bool) (terms : List Term)
  /-- A mark. -/
  | mark (c : Char)
  /-- A character that a backslash gives a meaning of its own. -/
  | escape (c : Char)

/-- The terms of a character that matches itself. -/
def literals (units : List Nat) : List Term :=
  units.map Term.literal

/-- The terms of a character behind a backslash. -/
def escapedTerms (c : Char) : List Term :=
  match patternEscape? c with
  | some c => literals (Text.units c)
  | none => [.escape c]

/-- The terms of a character that stands for itself unless it is a mark. -/
def plainTerms (c : Char) : List Term :=
  if isSyntax c then [.mark c] else literals (Text.units c)

/-- **Reads a pattern.** The groups that are open come with the terms in front of
them, the innermost group first; behind them come the terms read since. -/
def readTerms? : List (Bool × List Term) → List Term → List Char → Option (List Term)
  | [], terms, [] => some terms
  | _ :: _, _, [] => none
  | outer, terms, '(' :: '?' :: ':' :: rest => readTerms? ((false, terms) :: outer) [] rest
  | outer, terms, '(' :: rest => readTerms? ((true, terms) :: outer) [] rest
  | [], _, ')' :: _ => none
  | (captures, before) :: outer, terms, ')' :: rest =>
    readTerms? outer (before ++ [.group captures terms]) rest
  | outer, terms, '\\' :: 'u' :: a :: b :: c :: d :: rest =>
    match Text.hexNumber? a b c d with
    | none => readTerms? outer (terms ++ [.escape 'u']) (a :: b :: c :: d :: rest)
    | some unit => readTerms? outer (terms ++ literals [unit]) rest
  | _, _, ['\\'] => none
  | outer, terms, '\\' :: c :: rest => readTerms? outer (terms ++ escapedTerms c) rest
  | outer, terms, c :: rest => readTerms? outer (terms ++ plainTerms c) rest

/-- **A replacement is read as the units of its character**, whatever is open and
whatever follows. -/
theorem readTerms?_regexChar (outer : List (Bool × List Term)) (terms : List Term) (c : Char)
    (rest : List Char) :
    readTerms? outer terms (regexChar c ++ rest)
      = readTerms? outer (terms ++ literals (Text.units c)) rest := by
  rcases regexChar_cases c with ⟨letter, hw, hletter, -⟩ | ⟨hw, hlt⟩ | ⟨hw, hmeta, -⟩
  · have hterms : escapedTerms letter = literals (Text.units c) := by rw [escapedTerms, hletter]
    rw [hw, List.cons_append, List.singleton_append, readTerms?, hterms]
    -- a short escape is not the one with four digits
    rintro _ _ _ _ _ rfl
    cases hletter
  · rw [hw, Text.units_of_lt hlt]
    show readTerms? outer terms ('\\' :: 'u' :: Text.hexDigit _ :: Text.hexDigit _
      :: Text.hexDigit _ :: Text.hexDigit _ :: rest) = _
    rw [readTerms?, Text.hexNumber?_hexDigits hlt]
  · have hterms : plainTerms c = literals (Text.units c) := by
      have hsyntax : isSyntax c = false := (Bool.or_eq_false_iff.mp (isMeta_eq c ▸ hmeta)).1
      rw [plainTerms, hsyntax, if_neg Bool.false_ne_true]
    have hopen : c ≠ '(' := ne_of_isMeta hmeta rfl
    have hclose : c ≠ ')' := ne_of_isMeta hmeta rfl
    have hescape : c ≠ '\\' := ne_of_isMeta hmeta rfl
    rw [hw, List.singleton_append, readTerms?, hterms]
    all_goals intros
    all_goals contradiction

theorem readTerms?_flatMap (outer : List (Bool × List Term)) (terms : List Term)
    (cs rest : List Char) :
    readTerms? outer terms (cs.flatMap regexChar ++ rest)
      = readTerms? outer (terms ++ literals (Text.unitsOf cs)) rest := by
  induction cs generalizing terms with
  | nil => exact (List.append_nil terms).symm ▸ rfl
  | cons c cs ih =>
    rw [List.flatMap_cons, List.append_assoc, readTerms?_regexChar, ih, List.append_assoc,
      literals, literals, ← List.map_append]
    rfl

/-- **What is written for a text is read as the units of the text**, and as an
empty group if there are none. -/
theorem readTerms?_regexText (text : String) :
    readTerms? [] [] (regexText (regexBody text))
      = some (if text = "" then [.group false []] else literals (Text.unitsOf text.toList)) := by
  rw [regexText_regexBody]
  by_cases htext : text = ""
  · subst htext
    rfl
  · have hne : text.toList ≠ [] := fun h => htext (String.toList_inj.mp h)
    rw [if_neg hne, if_neg htext, ← List.append_nil (text.toList.flatMap regexChar),
      readTerms?_flatMap]
    rfl

/-- **A regular expression for a text matches that text literally.** As it stands in
a script it is one literal: there is something between its slashes, it does not begin
like a comment, no slash of the text ends it and no line ends in it, and what follows
it is not taken in. Read as a pattern, it is the characters of the text one after
another, with no mark among them. -/
theorem matching_isLiteral (text : String) (depth : Nat) :
    ∃ body, writeExpr depth (.matching text) = '/' :: (body ++ ['/'])
      ∧ body ≠ [] ∧ body.head? ≠ some '/' ∧ body.head? ≠ some '*'
      ∧ Guarded '/' body
      ∧ (∀ c ∈ body, isLineEnd c = false)
      ∧ (∀ rest, readRegex? (writeExpr depth (.matching text) ++ rest) = some (body, rest))
      ∧ ∃ units, readTerms? [] [] body
          = some (if text = "" then [.group false []] else literals units)
        ∧ Text.ofUnits? units = some text.toList := by
  obtain ⟨c, cs, hbody, hslash, hstar⟩ := exists_regexText_eq_cons text
  have hwrite : writeExpr depth (.matching text) = '/' :: (regexText (regexBody text) ++ ['/']) :=
    rfl
  refine ⟨regexText (regexBody text), hwrite, ?_, ?_, ?_, guarded_regexText text,
    fun _ => isLineEnd_of_mem_regexText, fun rest => ?_, _, readTerms?_regexText text,
    Text.ofUnits?_unitsOf _⟩
  · exact hbody ▸ List.cons_ne_nil c cs
  · exact hbody ▸ fun h => hslash (Option.some.inj h)
  · exact hbody ▸ fun h => hstar (Option.some.inj h)
  · have hread := readBody?_regexText text rest
    rw [hwrite]
    rw [hbody] at hread ⊢
    show readRegex? ('/' :: c :: (cs ++ ['/'] ++ rest)) = _
    rw [List.append_assoc, readRegex?]
    · exact hread
    · exact fun _ h => hslash (List.cons.inj h).1
    · exact fun _ h => hstar (List.cons.inj h).1

end Playscript.Script
