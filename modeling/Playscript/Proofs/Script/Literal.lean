import Playscript.Proofs.Script.Identifier
import Playscript.Script.Printer

/-!
# How the characters of literals are written

Three writings replace characters, and each replaces others: strings,
regular expressions and comments. Whoever reads what was written needs no
more than the shape of each replacement. In strings and in regular
expressions there are three shapes: a backslash with one character behind
it, a backslash with `u` and four digits behind it, and the character
itself (`escapeChar_cases`, `regexChar_cases`). A comment has no
replacements and is cut instead; what comes out of the cutting holds no
line end (`isLineEnd_of_mem_commentLines`).

The digits are characters of names, which settles at once that none of them
is a quote, a slash, a backslash or a line end.

In all three shapes a mark that would end the literal stands behind a
backslash, and no backslash is left over at the end (`Guarded`). This can be
told of each replacement alone, since none of them ends in a backslash that
takes in what follows it.
-/

namespace Playscript.Script

/-! ## Characters -/

/-- What is found out by looking at each character of a text. -/
theorem forall_mem_of_all {p : Char → Prop} [DecidablePred p] {cs : List Char}
    (h : (cs.all fun c => decide (p c)) = true) : ∀ c ∈ cs, p c :=
  fun c hc => of_decide_eq_true (List.all_eq_true.mp h c hc)

/-- What is true of the sixteen digits is true of those of an escape. -/
theorem of_mem_hexDigits {p : Char → Prop} (h : ∀ n < 16, p (Text.hexDigit n)) {n : Nat} {c : Char}
    (hc : c ∈ Text.hexDigits n) : p c := by
  simp only [Text.hexDigits, List.mem_cons, List.not_mem_nil, or_false] at hc
  rcases hc with rfl | rfl | rfl | rfl <;> exact h _ (Nat.mod_lt _ (by decide))

/-- The digits of an escape are characters of names. -/
theorem isNameChar_of_mem_hexDigits {n : Nat} {c : Char} (h : c ∈ Text.hexDigits n) :
    Identifier.isNameChar c = true :=
  of_mem_hexDigits (p := (Identifier.isNameChar · = true)) (by decide) h

/-- A character of a name is none of the others. -/
theorem ne_of_isNameChar {c d : Char} (hc : Identifier.isNameChar c = true)
    (hd : Identifier.isNameChar d = false) : c ≠ d := by
  rintro rfl
  rw [hc] at hd
  cases hd

theorem isLineEnd_eq_false_iff {c : Char} :
    isLineEnd c = false ↔ c ≠ '\n' ∧ c ≠ '\r' ∧ c ≠ '\u2028' ∧ c ≠ '\u2029' := by
  simp only [isLineEnd, Bool.or_eq_false_iff, beq_eq_false_iff_ne, and_assoc]

/-- No character of a name ends a line. -/
theorem isLineEnd_of_isNameChar {c : Char} (h : Identifier.isNameChar c = true) :
    isLineEnd c = false :=
  isLineEnd_eq_false_iff.mpr ⟨ne_of_isNameChar h rfl, ne_of_isNameChar h rfl,
    ne_of_isNameChar h rfl, ne_of_isNameChar h rfl⟩

/-! ## Backslashes -/

/-- Whether a backslash at the end of a text takes in the character behind it.
One that is taken in itself does not. -/
def takesNext (text : List Char) : Bool :=
  text.foldl (fun taken c => !taken && c == '\\') false

theorem takesNext_concat (text : List Char) (c : Char) :
    takesNext (text ++ [c]) = (!takesNext text && c == '\\') := by
  rw [takesNext, List.foldl_append]
  rfl

theorem takesNext_append {text : List Char} (h : takesNext text = false) (rest : List Char) :
    takesNext (text ++ rest) = takesNext rest := by
  rw [takesNext] at h
  rw [takesNext, List.foldl_append, h]
  rfl

/-- **A mark is guarded in a text**: wherever it stands, a backslash takes it
in, and no backslash takes in what stands behind the text. -/
structure Guarded (mark : Char) (text : List Char) : Prop where
  /-- The mark is taken in. -/
  taken : ∀ front back, text = front ++ mark :: back → takesNext front = true
  /-- What is behind the text is not. -/
  closed : takesNext text = false

section Guarded

variable {mark : Char} {text rest : List Char}

theorem Guarded.append (h : Guarded mark text) (h' : Guarded mark rest) :
    Guarded mark (text ++ rest) := by
  refine ⟨fun front back he => ?_, by rw [takesNext_append h.closed, h'.closed]⟩
  rcases List.append_eq_append_iff.mp he with ⟨middle, rfl, hrest⟩ | ⟨middle, htext, hrest⟩
  · rw [takesNext_append h.closed]
    exact h'.taken middle back hrest
  · cases middle with
    | nil => exact absurd (h'.taken [] back hrest.symm) Bool.false_ne_true
    | cons c middle =>
      obtain ⟨rfl, -⟩ := List.cons.inj hrest
      exact h.taken front middle htext

/-- A text that holds neither the mark nor a backslash. -/
theorem guarded_of_forall (h : ∀ c ∈ text, c ≠ mark ∧ c ≠ '\\') : Guarded mark text := by
  refine ⟨fun front back he => ?_, ?_⟩
  · exact absurd rfl (h mark (he ▸ List.mem_append_right front List.mem_cons_self)).1
  · induction text with
    | nil => rfl
    | cons c text ih =>
      obtain ⟨⟨-, hc⟩, htext⟩ := List.forall_mem_cons.mp h
      have hsingle : takesNext [c] = false := by simpa [takesNext] using hc
      rw [← List.singleton_append, takesNext_append hsingle]
      exact ih htext

/-- A backslash takes in whatever stands behind it. -/
theorem guarded_backslash (h : mark ≠ '\\') (c : Char) : Guarded mark ['\\', c] := by
  refine ⟨fun front back he => ?_, by simp [takesNext]⟩
  cases front with
  | nil => exact absurd (List.cons.inj he).1.symm h
  | cons d front =>
    obtain ⟨rfl, hback⟩ := List.cons.inj he
    cases front with
    | nil => rfl
    | cons e front =>
      have hnil := (List.cons.inj hback).2
      exact absurd hnil.symm (List.append_ne_nil_of_right_ne_nil _ (List.cons_ne_nil _ _))

/-- Four digits behind a backslash and `u`. -/
theorem guarded_unicodeEscape (h : mark ≠ '\\') (hmark : Identifier.isNameChar mark = false)
    (c : Char) : Guarded mark (unicodeEscape c) := by
  refine (guarded_backslash h 'u').append (guarded_of_forall fun d hd => ?_)
  have hname := isNameChar_of_mem_hexDigits hd
  exact ⟨ne_of_isNameChar hname hmark, ne_of_isNameChar hname rfl⟩

/-- What guards a mark character by character guards it. -/
theorem guarded_flatMap {write : Char → List Char} (h : ∀ c, Guarded mark (write c))
    (cs : List Char) : Guarded mark (cs.flatMap write) := by
  induction cs with
  | nil => exact guarded_of_forall (List.forall_mem_nil _)
  | cons c cs ih => exact (h c).append ih

end Guarded

/-! ## Strings -/

/-- The character for which a letter behind a backslash stands in a
string. -/
def shortEscape? : Char → Option Char
  | '"' => some '"'
  | '\\' => some '\\'
  | 'n' => some '\n'
  | 'r' => some '\r'
  | 't' => some '\t'
  | _ => none

/-- Four digits are enough for what is written with them in a string. -/
theorem toNat_lt_of_isControl {c : Char}
    (h : (c = '\u2028' || c = '\u2029' || Text.isControl c) = true) : c.toNat < 65536 := by
  simp only [Bool.or_eq_true, decide_eq_true_eq, Text.isControl, Bool.and_eq_true] at h
  rcases h with (rfl | rfl) | h
  · decide
  · decide
  · omega

/-- **The three ways to write a character of a string.** -/
theorem escapeChar_cases (c : Char) :
    (∃ letter, escapeChar c = ['\\', letter] ∧ shortEscape? letter = some c
        ∧ isLineEnd letter = false ∧ Text.isControl letter = false)
      ∨ (escapeChar c = unicodeEscape c ∧ c.toNat < 65536)
      ∨ (escapeChar c = [c] ∧ c ≠ '"' ∧ c ≠ '\\' ∧ isLineEnd c = false
        ∧ Text.isControl c = false) := by
  unfold escapeChar
  split
  · next h => exact Or.inl ⟨'"', rfl, by rw [h]; rfl, rfl, rfl⟩
  split
  · next h => exact Or.inl ⟨'\\', rfl, by rw [h]; rfl, rfl, rfl⟩
  split
  · next h => exact Or.inl ⟨'n', rfl, by rw [h]; rfl, rfl, rfl⟩
  split
  · next h => exact Or.inl ⟨'r', rfl, by rw [h]; rfl, rfl, rfl⟩
  split
  · next h => exact Or.inl ⟨'t', rfl, by rw [h]; rfl, rfl, rfl⟩
  split
  · next h => exact Or.inr (Or.inl ⟨rfl, toNat_lt_of_isControl h⟩)
  · next hquote hslash hfeed hreturn _ hother =>
    simp only [Bool.or_eq_true, decide_eq_true_eq, not_or, Bool.not_eq_true] at hother
    exact Or.inr (Or.inr ⟨rfl, hquote, hslash,
      isLineEnd_eq_false_iff.mpr ⟨hfeed, hreturn, hother.1.1, hother.1.2⟩, hother.2⟩)

/-- What is true of a backslash and of a letter is true of the two. -/
theorem of_mem_backslash {p : Char → Prop} {letter d : Char} (hbackslash : p '\\')
    (hletter : p letter) (hd : d ∈ ['\\', letter]) : p d := by
  rcases List.mem_cons.mp hd with rfl | hd
  · exact hbackslash
  · rwa [List.mem_singleton.mp hd]

/-- What is written with four digits holds no line end. -/
theorem isLineEnd_of_mem_unicodeEscape {c d : Char} (h : d ∈ unicodeEscape c) :
    isLineEnd d = false := by
  rcases List.mem_cons.mp h with rfl | h
  · rfl
  rcases List.mem_cons.mp h with rfl | h
  · rfl
  · exact isLineEnd_of_isNameChar (isNameChar_of_mem_hexDigits h)

/-- **A written string holds no line end.** -/
theorem isLineEnd_of_mem_escape {cs : List Char} {d : Char} (h : d ∈ escape cs) :
    isLineEnd d = false := by
  obtain ⟨c, -, hd⟩ := List.mem_flatMap.mp h
  rcases escapeChar_cases c with ⟨letter, hw, -, hletter, -⟩ | ⟨hw, -⟩ | ⟨hw, -, -, hc, -⟩ <;>
    rw [hw] at hd
  · exact of_mem_backslash (p := (isLineEnd · = false)) rfl hletter hd
  · exact isLineEnd_of_mem_unicodeEscape hd
  · rwa [List.mem_singleton.mp hd]

/-- **A quote in a written string is guarded.** -/
theorem guarded_escape (cs : List Char) : Guarded '"' (escape cs) := by
  refine guarded_flatMap (fun c => ?_) cs
  rcases escapeChar_cases c with ⟨letter, hw, -⟩ | ⟨hw, -⟩ | ⟨hw, hquote, hslash, -⟩
  · rw [hw]
    exact guarded_backslash (by decide) letter
  · rw [hw]
    exact guarded_unicodeEscape (by decide) (by decide) c
  · rw [hw]
    exact guarded_of_forall (List.forall_mem_singleton.mpr ⟨hquote, hslash⟩)

/-! ## Regular expressions -/

/-- Whether a character is one of the marks that patterns are built with. -/
def isSyntax (c : Char) : Bool :=
  ['\\', '^', '$', '.', '|', '?', '*', '+', '(', ')', '[', ']', '\x7b', '\x7d'].contains c

/-- The character for which one behind a backslash stands in a regular
expression. -/
def patternEscape? (letter : Char) : Option Char :=
  if isSyntax letter || letter == '/' then some letter
  else match letter with
    | 'n' => some '\n'
    | 'r' => some '\r'
    | 't' => some '\t'
    | 'v' => some '\x0b'
    | 'f' => some '\x0c'
    | _ => none

/-- What has a meaning of its own is a mark, or the slash behind which the
expression ends. -/
theorem isMeta_eq (c : Char) : isMeta c = (isSyntax c || c == '/') := by
  simp only [isMeta, isSyntax, List.contains_cons, List.contains_nil, Bool.or_false, Bool.or_assoc]

/-- **The three ways to write a character of a regular expression.** -/
theorem regexChar_cases (c : Char) :
    (∃ letter, regexChar c = ['\\', letter] ∧ patternEscape? letter = some c
        ∧ isLineEnd letter = false)
      ∨ (regexChar c = unicodeEscape c ∧ c.toNat < 65536)
      ∨ (regexChar c = [c] ∧ isMeta c = false ∧ isLineEnd c = false) := by
  unfold regexChar
  split
  · next h =>
    refine Or.inl ⟨c, rfl, if_pos (isMeta_eq c ▸ h), ?_⟩
    -- no line end has a meaning of its own
    refine isLineEnd_eq_false_iff.mpr ⟨?_, ?_, ?_, ?_⟩ <;>
    · rintro rfl
      cases h
  split
  · next h => exact Or.inl ⟨'n', rfl, by rw [h]; rfl, rfl⟩
  split
  · next h => exact Or.inl ⟨'r', rfl, by rw [h]; rfl, rfl⟩
  split
  · next h => exact Or.inr (Or.inl ⟨rfl, toNat_lt_of_isControl (by rw [h, Bool.true_or])⟩)
  · next hmeta hfeed hreturn hother =>
    simp only [Bool.or_eq_true, decide_eq_true_eq, not_or] at hother
    refine Or.inr (Or.inr ⟨rfl, by simpa using hmeta, ?_⟩)
    exact isLineEnd_eq_false_iff.mpr ⟨hfeed, hreturn, hother.1, hother.2⟩

/-- A character without a meaning of its own is none of those that have
one. -/
theorem ne_of_isMeta {c d : Char} (hc : isMeta c = false) (hd : isMeta d = true) : c ≠ d := by
  rintro rfl
  rw [hc] at hd
  cases hd

/-- **The text between the slashes of a regular expression.** -/
def regexText (body : String) : List Char :=
  if body = "" then "(?:)".toList else body.toList

theorem slashed_eq (body : String) : slashed body = '/' :: (regexText body ++ ['/']) := rfl

/-- The body for a text is written in the characters that stand for those of
the text, and as an empty group when there are none. -/
theorem regexText_regexBody (text : String) :
    regexText (regexBody text)
      = if text.toList = [] then "(?:)".toList else text.toList.flatMap regexChar := by
  rw [regexText, regexBody]
  cases htext : text.toList with
  | nil => rfl
  | cons c cs =>
    have hbody : String.ofList ((c :: cs).flatMap regexChar) ≠ "" := by
      intro hempty
      have hnil := congrArg String.toList hempty
      rw [String.toList_ofList] at hnil
      rcases regexChar_cases c with ⟨letter, hw, -⟩ | ⟨hw, -⟩ | ⟨hw, -⟩ <;>
      · rw [List.flatMap_cons, hw] at hnil
        cases hnil
    rw [if_neg (List.cons_ne_nil c cs), if_neg hbody, String.toList_ofList]

/-- **A written regular expression holds no line end.** -/
theorem isLineEnd_of_mem_regexText {text : String} {d : Char}
    (h : d ∈ regexText (regexBody text)) : isLineEnd d = false := by
  rw [regexText_regexBody] at h
  split at h
  · exact forall_mem_of_all (p := (isLineEnd · = false)) (by decide) d h
  · obtain ⟨c, -, hd⟩ := List.mem_flatMap.mp h
    rcases regexChar_cases c with ⟨letter, hw, -, hletter⟩ | ⟨hw, -⟩ | ⟨hw, -, hc⟩ <;>
      rw [hw] at hd
    · exact of_mem_backslash (p := (isLineEnd · = false)) rfl hletter hd
    · exact isLineEnd_of_mem_unicodeEscape hd
    · rwa [List.mem_singleton.mp hd]

/-- **A written regular expression begins neither like a comment nor like
one of several lines.** -/
theorem exists_regexText_eq_cons (text : String) :
    ∃ c rest, regexText (regexBody text) = c :: rest ∧ c ≠ '/' ∧ c ≠ '*' := by
  rw [regexText_regexBody]
  cases text.toList with
  | nil => exact ⟨_, _, rfl, by decide, by decide⟩
  | cons c cs =>
    rw [if_neg (List.cons_ne_nil c cs), List.flatMap_cons]
    rcases regexChar_cases c with ⟨letter, hw, -⟩ | ⟨hw, -⟩ | ⟨hw, hmeta, -⟩
    · exact ⟨_, _, by rw [hw]; rfl, by decide, by decide⟩
    · exact ⟨_, _, by rw [hw]; rfl, by decide, by decide⟩
    · exact ⟨_, _, by rw [hw]; rfl, ne_of_isMeta hmeta rfl, ne_of_isMeta hmeta rfl⟩

/-- **A slash in a written regular expression is guarded.** -/
theorem guarded_regexText (text : String) : Guarded '/' (regexText (regexBody text)) := by
  rw [regexText_regexBody]
  split
  · exact guarded_of_forall (forall_mem_of_all (by decide))
  · refine guarded_flatMap (fun c => ?_) _
    rcases regexChar_cases c with ⟨letter, hw, -⟩ | ⟨hw, -⟩ | ⟨hw, hmeta, -⟩
    · rw [hw]
      exact guarded_backslash (by decide) letter
    · rw [hw]
      exact guarded_unicodeEscape (by decide) (by decide) c
    · rw [hw]
      exact guarded_of_forall
        (List.forall_mem_singleton.mpr ⟨ne_of_isMeta hmeta rfl, ne_of_isMeta hmeta rfl⟩)

/-! ## Comments -/

/-- **No line of a comment holds a line end.** -/
theorem isLineEnd_of_mem_commentLines {cs line : List Char} (h : line ∈ commentLines cs)
    {d : Char} (hd : d ∈ line) : isLineEnd d = false := by
  induction cs using commentLines.induct generalizing line with
  | case1 =>
    rw [commentLines, List.mem_singleton] at h
    rw [h] at hd
    cases hd
  | case2 rest ih =>
    rw [commentLines] at h
    rcases List.mem_cons.mp h with rfl | h
    · cases hd
    · exact ih h hd
  | case3 c rest hpair hend ih =>
    rw [commentLines, if_pos hend] at h
    · rcases List.mem_cons.mp h with rfl | h
      · cases hd
      · exact ih h hd
    · exact hpair
  | case4 c rest hpair hend ih =>
    rw [commentLines, if_neg hend] at h
    · cases hlines : commentLines rest with
      | nil =>
        rw [hlines] at h
        cases h
      | cons first others =>
        rw [hlines, List.modifyHead_cons] at h
        rcases List.mem_cons.mp h with rfl | h
        · rcases List.mem_cons.mp hd with rfl | hd
          · simpa using hend
          · exact ih (hlines ▸ List.mem_cons_self) hd
        · exact ih (hlines ▸ List.mem_cons_of_mem _ h) hd
    · exact hpair

/-- A text without line ends is one line. -/
theorem commentLines_of_forall {cs : List Char} (h : ∀ c ∈ cs, isLineEnd c = false) :
    commentLines cs = [cs] := by
  induction cs with
  | nil => rfl
  | cons c rest ih =>
    have hc := h c List.mem_cons_self
    rw [commentLines, if_neg (by simp [hc]), ih fun d hd => h d (List.mem_cons_of_mem _ hd)]
    · rfl
    · rintro _ rfl -
      cases hc

/-- A comment of one line is written behind two slashes. -/
theorem writeComment_of_forall (depth : Nat) {text : String}
    (h : ∀ c ∈ text.toList, isLineEnd c = false) :
    writeComment depth text = "// ".toList ++ text.toList := by
  rw [writeComment, commentLines_of_forall h]
  simp only [List.mapIdx_cons, List.mapIdx_nil, List.intercalate_singleton, if_true,
    List.nil_append]

end Playscript.Script
