import Playscript.Proofs.Script.Leaves
import Playscript.Proofs.Script.Parser
import Playscript.Script.Printer

/-!
# The parts of a written script read back

The reader finds the end of a part by what stands behind it. So every
statement about a part carries a rest, and says of the rest no more than
that the part does not go on in it: a name goes on with a character of
names, an expression also with a point or a parenthesis (`endsWord`,
`endsExpr`, `endsPart`). On the marks that the printer puts behind a part
these are computations.

Parts between commas are one argument for names, parameters, entries and
expressions alike: a part stands in front of a rest that ends it, and
behind the comma the reader finds the parts that are left
(`exists_separated_append`).
-/

namespace Playscript.Script

/-- **A leaf that can be read back.** A number cannot, as it may be written
like a name; nor a comment of several lines, which is written like several
comments; nor a member that is called like a constructor. -/
def Leaf.IsReadable : Leaf → Prop
  | .name identifier => identifier.isValid = true
  | .memberName identifier => identifier.isValid = true ∧ identifier.text ≠ "constructor"
  | .number _ => False
  | .string _ | .key _ => True
  | .regex body => ∃ text, body = regexBody text
  | .comment text => ∀ c ∈ text.toList, isLineEnd c = false

/-! ## What may follow -/

/-- Whether a word does not go on. -/
def endsWord (rest : List Char) : Bool :=
  !rest.head?.any Identifier.isNameChar

/-- Whether a name does not go on, nor stands in front of parameters. -/
def endsName (rest : List Char) : Bool :=
  endsWord rest && (after? " (".toList rest).isNone

/-- Whether an expression does not go on. -/
def endsExpr (rest : List Char) : Bool :=
  endsName rest && rest.head? != some '.' && rest.head? != some '('

/-- Whether a part between commas does not go on. -/
def endsPart (rest : List Char) : Bool :=
  endsExpr rest && (after? " = ".toList rest).isNone && rest.head? != some ':'

theorem endsWord_of_endsName {rest : List Char} (h : endsName rest = true) :
    endsWord rest = true := by
  simp only [endsName, Bool.and_eq_true] at h
  exact h.1

theorem after?_of_endsName {rest : List Char} (h : endsName rest = true) :
    after? " (".toList rest = none := by
  simp only [endsName, Bool.and_eq_true, Option.isNone_iff_eq_none] at h
  exact h.2

theorem endsName_of_endsExpr {rest : List Char} (h : endsExpr rest = true) :
    endsName rest = true := by
  simp only [endsExpr, Bool.and_eq_true] at h
  exact h.1.1

theorem endsExpr_of_endsPart {rest : List Char} (h : endsPart rest = true) :
    endsExpr rest = true := by
  simp only [endsPart, Bool.and_eq_true] at h
  exact h.1.1

theorem endsName_of_endsPart {rest : List Char} (h : endsPart rest = true) :
    endsName rest = true := endsName_of_endsExpr (endsExpr_of_endsPart h)

theorem endsWord_of_endsPart {rest : List Char} (h : endsPart rest = true) :
    endsWord rest = true := endsWord_of_endsName (endsName_of_endsPart h)

theorem after?_of_endsPart {rest : List Char} (h : endsPart rest = true) :
    after? " = ".toList rest = none := by
  simp only [endsPart, Bool.and_eq_true, Option.isNone_iff_eq_none] at h
  exact h.1.2

/-! ## Words and marks -/

@[simp] theorem after?_append (fixed rest : List Char) :
    after? fixed (fixed ++ rest) = some rest := by
  induction fixed with
  | nil => rfl
  | cons c fixed ih => rw [List.cons_append, after?, if_pos rfl, ih]

/-- A text that begins with another character does not begin with a fixed
text. -/
theorem after?_of_ne {c d : Char} (h : c ≠ d) (fixed rest : List Char) :
    after? (c :: fixed) (d :: rest) = none := by
  rw [after?, if_neg h]

/-- Whether a text is a single word. -/
def isWord (text : List Char) : Bool :=
  !text.isEmpty && text.all Identifier.isNameChar

theorem isWord_iff {text : List Char} :
    isWord text = true ↔ text ≠ [] ∧ ∀ c ∈ text, Identifier.isNameChar c = true := by
  rw [isWord, Bool.and_eq_true, List.all_eq_true, Bool.not_eq_true', List.isEmpty_eq_false_iff]

/-- A word begins with one of its characters. -/
theorem exists_eq_cons_of_isWord {word : List Char} (h : isWord word = true) :
    ∃ c cs, word = c :: cs ∧ Identifier.isNameChar c = true := by
  obtain ⟨hne, hchars⟩ := isWord_iff.mp h
  cases word with
  | nil => exact absurd rfl hne
  | cons c cs => exact ⟨c, cs, rfl, hchars c List.mem_cons_self⟩

/-- **A word ends where it does not go on.** -/
theorem parseWord_append {word rest : List Char} (hword : isWord word = true)
    (hrest : endsWord rest = true) : parseWord (word ++ rest) = (word, rest) := by
  have hchars := (isWord_iff.mp hword).2
  have hnone : rest.takeWhile Identifier.isNameChar = []
      ∧ rest.dropWhile Identifier.isNameChar = rest := by
    cases rest with
    | nil => exact ⟨rfl, rfl⟩
    | cons c rest =>
      have hc : Identifier.isNameChar c = false := by simpa [endsWord] using hrest
      rw [List.takeWhile_cons, List.dropWhile_cons, hc]
      exact ⟨rfl, rfl⟩
  rw [parseWord, List.takeWhile_append_of_pos hchars, List.dropWhile_append_of_pos hchars, hnone.1,
    hnone.2, List.append_nil]

/-- A valid name is a word. -/
theorem isWord_of_isValid {name : Identifier} (h : name.isValid = true) :
    isWord name.text.toList = true :=
  isWord_iff.mpr ⟨(Identifier.isValid_iff.mp h).1.ne_nil, (Identifier.isValid_iff.mp h).1.chars⟩

/-- A valid name is no word of the language. -/
theorem ne_of_isValid {name : Identifier} (h : name.isValid = true) {word : String}
    (hword : word ∈ Identifier.reservedWords) : name.text ≠ word := by
  rintro rfl
  exact (Identifier.isValid_iff.mp h).2 hword

/-- A name begins with one of its characters. -/
theorem exists_toList_eq_cons {name : Identifier} (h : name.isValid = true) :
    ∃ c cs, name.text.toList = c :: cs ∧ Identifier.isNameChar c = true :=
  exists_eq_cons_of_isWord (isWord_of_isValid h)

/-- A word is read as a name. -/
theorem parseName_word {word : String} (hword : isWord word.toList = true) {rest : List Char}
    (hrest : endsWord rest = true) :
    parseName (word.toList ++ rest) = some (⟨word⟩, rest) := by
  rw [parseName, parseWord_append hword hrest, if_neg (isWord_iff.mp hword).1,
    String.ofList_toList]

/-- **A name is read back.** -/
theorem parseName_append {name : Identifier} (h : name.isValid = true) {rest : List Char}
    (hrest : endsWord rest = true) :
    parseName (name.text.toList ++ rest) = some (name, rest) :=
  parseName_word (isWord_of_isValid h) hrest

theorem skipBlanks_indent (depth : Nat) (line : List Char) :
    skipBlanks (indent depth ++ line) = skipBlanks line := by
  rw [skipBlanks, indent, List.dropWhile_append_of_pos]
  · rfl
  · intro c hc
    rw [List.eq_of_mem_replicate hc]
    rfl

/-! ## Strings -/

theorem parseText_escapeChar (c : Char) (rest : List Char) :
    parseText (escapeChar c ++ rest)
      = (parseText rest).map fun found => (c :: found.1, found.2) := by
  rcases escapeChar_cases c with ⟨letter, hw, hletter, -⟩ | ⟨hw, hlt⟩ | ⟨hw, hquote, hslash, -⟩
  · rw [hw, List.cons_append, List.singleton_append, parseText, hletter]
    rintro _ _ _ _ _ rfl
    cases hletter
  · rw [hw]
    show parseText ('\\' :: 'u' :: Text.hexDigit _ :: Text.hexDigit _ :: Text.hexDigit _
      :: Text.hexDigit _ :: rest) = _
    rw [parseText, Text.hexNumber?_hexDigits hlt]
    simp only [Char.ofNat_toNat]
  · rw [hw, List.singleton_append, parseText]
    · exact hquote
    · exact fun _ _ _ _ _ h => absurd h hslash
    · exact fun _ _ h => absurd h hslash

/-- **A string is read back**, up to the quote that ends it. -/
theorem parseText_escape (cs rest : List Char) :
    parseText (escape cs ++ '"' :: rest) = some (cs, rest) := by
  induction cs with
  | nil => rfl
  | cons c cs ih =>
    show parseText (escapeChar c ++ escape cs ++ '"' :: rest) = _
    rw [List.append_assoc, parseText_escapeChar, ih]
    rfl

/-! ## Regular expressions -/

/-- Characters that mean nothing to the reader of regular expressions. -/
theorem parseRegex_plain {text : List Char} (h : ∀ c ∈ text, c ≠ '/' ∧ c ≠ '\\')
    (rest : List Char) :
    parseRegex (text ++ rest) = (parseRegex rest).map fun found => (text ++ found.1, found.2) := by
  induction text with
  | nil => exact Option.map_id'.symm ▸ rfl
  | cons c text ih =>
    obtain ⟨⟨hslash, hescape⟩, hrest⟩ := List.forall_mem_cons.mp h
    rw [List.cons_append, parseRegex, ih hrest, Option.map_map]
    · rfl
    · exact hslash
    · exact fun _ _ h => absurd h hescape

theorem parseRegex_escaped (c : Char) (rest : List Char) :
    parseRegex ('\\' :: c :: rest)
      = (parseRegex rest).map fun found => ('\\' :: c :: found.1, found.2) := by
  rw [parseRegex]

theorem parseRegex_regexChar (c : Char) (rest : List Char) :
    parseRegex (regexChar c ++ rest)
      = (parseRegex rest).map fun found => (regexChar c ++ found.1, found.2) := by
  rcases regexChar_cases c with ⟨letter, hw, -⟩ | ⟨hw, -⟩ | ⟨hw, hmeta, -⟩
  · rw [hw]
    exact parseRegex_escaped letter rest
  · have hdigits : ∀ d ∈ Text.hexDigits c.toNat, d ≠ '/' ∧ d ≠ '\\' := fun d hd =>
      ⟨ne_of_isNameChar (isNameChar_of_mem_hexDigits hd) rfl,
        ne_of_isNameChar (isNameChar_of_mem_hexDigits hd) rfl⟩
    rw [hw, unicodeEscape, List.cons_append, List.cons_append, parseRegex_escaped,
      parseRegex_plain hdigits, Option.map_map]
    rfl
  · rw [hw]
    refine parseRegex_plain (fun d hd => ?_) rest
    rw [List.mem_singleton.mp hd]
    exact ⟨ne_of_isMeta hmeta rfl, ne_of_isMeta hmeta rfl⟩

theorem parseRegex_flatMap (cs rest : List Char) :
    parseRegex (cs.flatMap regexChar ++ '/' :: rest) = some (cs.flatMap regexChar, rest) := by
  induction cs with
  | nil => rfl
  | cons c cs ih =>
    rw [List.flatMap_cons, List.append_assoc, parseRegex_regexChar, ih]
    rfl

/-- **A regular expression is read back**, up to the slash that ends it. -/
theorem parseRegex_regexText (text : String) (rest : List Char) :
    parseRegex (regexText (regexBody text) ++ '/' :: rest)
      = some (regexText (regexBody text), rest) := by
  rw [regexText_regexBody]
  split
  · exact parseRegex_plain (forall_mem_of_all (by decide)) ('/' :: rest)
  · exact parseRegex_flatMap _ rest

/-- No text is matched by what stands for an empty body. -/
theorem bodyOf_regexText (text : String) :
    bodyOf (regexText (regexBody text)) = regexBody text := by
  rw [bodyOf, regexText_regexBody]
  cases htext : text.toList with
  | nil =>
    rw [if_pos rfl, if_pos rfl, regexBody, htext]
    rfl
  | cons c cs =>
    rw [if_neg (List.cons_ne_nil c cs), if_neg, regexBody, htext]
    intro h
    -- a parenthesis of the text is not written as itself
    rcases regexChar_cases c with ⟨letter, hw, -⟩ | ⟨hw, -⟩ | ⟨hw, hmeta, -⟩
    · rw [List.flatMap_cons, hw] at h
      exact absurd (List.cons.inj h).1 (by decide)
    · rw [List.flatMap_cons, hw] at h
      exact absurd (List.cons.inj h).1 (by decide)
    · rw [List.flatMap_cons, hw] at h
      exact ne_of_isMeta hmeta rfl (List.cons.inj h).1

/-! ## Keys -/

/-- A key begins with a quote or with a character of names. -/
theorem exists_writeKey_eq_cons (key : String) :
    ∃ c cs, writeKey key = c :: cs ∧ (c = '"' ∨ Identifier.isNameChar c = true) := by
  rw [writeKey]
  split
  · next h =>
    obtain ⟨c, cs, htext, hc⟩ := exists_toList_eq_cons h
    exact ⟨c, cs, htext, Or.inr hc⟩
  · exact ⟨_, _, rfl, Or.inl rfl⟩

/-- **A key is read back**, bare or quoted. -/
theorem parseKey_writeKey (key : String) {rest : List Char} (hrest : endsWord rest = true) :
    parseKey (writeKey key ++ rest) = some (key, rest) := by
  rw [writeKey]
  split
  · next h =>
    obtain ⟨c, cs, htext, hc⟩ := exists_toList_eq_cons h
    have hname := parseName_append h hrest
    rw [htext] at hname
    rw [htext, parseKey, List.cons_append, after?_of_ne (ne_of_isNameChar hc rfl).symm]
    rw [List.cons_append] at hname
    simp only [hname, Option.map_some]
  · rw [quote, List.cons_append, List.append_assoc, parseKey]
    show (parseText (escape key.toList ++ '"' :: rest)).map _ = _
    rw [parseText_escape, Option.map_some, String.ofList_toList]

/-! ## Parts between commas -/

/-- **A part in front of others is ended by what follows it**, and behind
the comma stand the others. -/
theorem exists_separated_append (part : List Char) (parts : List (List Char)) {rest : List Char}
    (hrest : endsPart rest = true) (hcomma : afterComma rest = rest) :
    ∃ tail, separated (part :: parts) ++ rest = part ++ tail ∧ endsPart tail = true
      ∧ afterComma tail = separated parts ++ rest := by
  cases parts with
  | nil => exact ⟨rest, rfl, hrest, hcomma⟩
  | cons next parts =>
    refine ⟨", ".toList ++ (separated (next :: parts) ++ rest), ?_, rfl, ?_⟩
    · rw [separated, List.append_assoc, List.append_assoc]
      exact List.cons_ne_nil next parts
    · rw [afterComma, after?_append, Option.getD_some]

theorem reads_names_close (rest : List Char) :
    Reads .names (" \x7d".toList ++ rest) ([], rest) := by
  refine reads_iff.mpr (.of_forall fun depth => ?_)
  show parseNames (readWithin depth) (" \x7d".toList ++ rest) = _
  rw [parseNames, after?_append]

/-- A name in front of others. -/
theorem reads_names_cons {input tail rest : List Char} {name : Identifier}
    {names : List Identifier} (hclose : after? " \x7d".toList input = none)
    (hname : parseName input = some (name, tail))
    (h : Reads .names (afterComma tail) (names, rest)) :
    Reads .names input (name :: names, rest) := by
  refine reads_iff.mpr ?_
  filter_upwards [h] with depth h
  show parseNames (readWithin depth) input = _
  rw [parseNames, hclose]
  simp only [hname, h, Option.bind_eq_bind, Option.bind_some, Option.pure_def]

/-- Names between commas, up to a brace. -/
theorem reads_names_separated {names : List Identifier}
    (h : ∀ leaf ∈ names.map Leaf.name, leaf.IsReadable) (rest : List Char) :
    Reads .names (separated (names.map (·.text.toList)) ++ (" \x7d".toList ++ rest))
      (names, rest) := by
  induction names with
  | nil => exact reads_names_close rest
  | cons name names ih =>
    obtain ⟨hname, hnames⟩ := List.forall_mem_cons.mp h
    have hbrace : endsPart (" \x7d".toList ++ rest) = true := rfl
    obtain ⟨tail, htail, hends, hafter⟩ := exists_separated_append name.text.toList
      (names.map (·.text.toList)) hbrace rfl
    obtain ⟨c, cs, htext, hc⟩ := exists_toList_eq_cons hname
    have hopen : after? " \x7d".toList (name.text.toList ++ tail) = none := by
      rw [htext]
      exact after?_of_ne (ne_of_isNameChar hc rfl).symm _ _
    rw [List.map_cons, htail]
    refine reads_names_cons hopen (parseName_append hname (endsWord_of_endsPart hends)) ?_
    rw [hafter]
    exact ih hnames

/-- **A pattern is read back.** -/
theorem reads_writePattern {pattern : Pattern} (h : ∀ leaf ∈ pattern.leaves, leaf.IsReadable)
    {rest : List Char} (hrest : endsWord rest = true) :
    Reads .pattern (writePattern pattern ++ rest) (pattern, rest) := by
  refine reads_iff.mpr ?_
  cases pattern with
  | name name =>
    have hname : name.isValid = true := h _ List.mem_cons_self
    obtain ⟨c, cs, htext, hc⟩ := exists_toList_eq_cons hname
    have hread := parseName_append hname hrest
    have hbrace : after? "\x7b ".toList (name.text.toList ++ rest) = none := by
      rw [htext]
      exact after?_of_ne (ne_of_isNameChar hc rfl).symm _ _
    refine .of_forall fun depth => ?_
    show parsePattern (readWithin depth) (writePattern (.name name) ++ rest) = _
    rw [writePattern, parsePattern, hbrace]
    simp only [hread, Option.map_some]
  | members names =>
    filter_upwards [reads_names_separated h rest] with depth hnames
    show parsePattern (readWithin depth) (writePattern (.members names) ++ rest) = _
    rw [writePattern, List.append_assoc, List.append_assoc, parsePattern, after?_append]
    simp only [hnames, Option.map_some]

/-! ## Looking ahead -/

/-- The look ahead at a text that begins with a word. -/
theorem opensExpr_word {word rest : List Char} (hword : isWord word = true)
    (hrest : endsWord rest = true) :
    opensExpr (word ++ rest) = !stmtWords.contains (String.ofList word) := by
  have hparse := parseWord_append hword hrest
  obtain ⟨c, cs, rfl, hc⟩ := exists_eq_cons_of_isWord hword
  rw [List.cons_append] at hparse ⊢
  rw [opensExpr, if_pos hc, hparse]

/-- A valid name is taken for an expression. -/
theorem opensExpr_name {name : Identifier} (h : name.isValid = true) {rest : List Char}
    (hrest : endsWord rest = true) : opensExpr (name.text.toList ++ rest) = true := by
  rw [opensExpr_word (isWord_of_isValid h) hrest, String.ofList_toList, Bool.not_eq_true',
    List.contains_eq_mem, decide_eq_false_iff_not]
  have hreserved : ∀ word ∈ stmtWords, word ∈ Identifier.reservedWords := by decide
  exact fun hm => ne_of_isValid h (hreserved _ hm) rfl

/-- The words that are expressions of their own. -/
def exprWords : List String := ["null", "true", "false", "this", "super"]

theorem opensExpr_exprWord (word : String) (h : word ∈ exprWords) {rest : List Char}
    (hrest : endsWord rest = true) : opensExpr (word.toList ++ rest) = true := by
  have hall : ∀ word ∈ exprWords, isWord word.toList = true
      ∧ stmtWords.contains word = false := by decide
  obtain ⟨hword, hstmt⟩ := hall word h
  rw [opensExpr_word hword hrest, String.ofList_toList, hstmt]
  rfl

theorem opensExpr_enclose (e : Expr) {written rest : List Char}
    (h : ∀ {rest}, endsWord rest = true → opensExpr (written ++ rest) = true)
    (hrest : endsWord rest = true) : opensExpr (enclose e written ++ rest) = true := by
  rw [enclose]
  split
  · rfl
  · exact h hrest

/-- **An expression is taken for one**, whatever does not continue it. -/
theorem opensExpr_writeExpr (depth : Nat) : (e : Expr) → (∀ leaf ∈ e.leaves, leaf.IsReadable) →
    {rest : List Char} → endsWord rest = true → opensExpr (writeExpr depth e ++ rest) = true
  | .null, _, _, hrest => opensExpr_exprWord "null" (by decide) hrest
  | .bool true, _, _, hrest => opensExpr_exprWord "true" (by decide) hrest
  | .bool false, _, _, hrest => opensExpr_exprWord "false" (by decide) hrest
  | .num _, h, _, _ => absurd (h _ List.mem_cons_self) id
  | .str _, _, _, _ => rfl
  | .regex body, h, rest, _ => by
    obtain ⟨text, rfl⟩ := h _ List.mem_cons_self
    obtain ⟨c, cs, hw, hslash, -⟩ := exists_regexText_eq_cons text
    show opensExpr (slashed (regexBody text) ++ rest) = true
    rw [slashed_eq, hw]
    exact bne_iff_ne.mpr fun h => hslash (Option.some.inj h)
  | .ident name, h, _, hrest => opensExpr_name (h _ List.mem_cons_self) hrest
  | .this, _, _, hrest => opensExpr_exprWord "this" (by decide) hrest
  | .super, _, _, hrest => opensExpr_exprWord "super" (by decide) hrest
  | .member object property, h, rest, _ => by
    show opensExpr (enclose object (writeExpr depth object) ++ '.' :: property.text.toList ++ rest)
      = true
    rw [List.append_assoc]
    exact opensExpr_enclose object
      (opensExpr_writeExpr depth object (List.forall_mem_append.mp h).1) rfl
  | .call callee args, h, rest, _ => by
    show opensExpr (enclose callee (writeExpr depth callee)
      ++ '(' :: (separated (writeExprs depth args) ++ [')']) ++ rest) = true
    rw [List.append_assoc]
    exact opensExpr_enclose callee
      (opensExpr_writeExpr depth callee (List.forall_mem_append.mp h).1) rfl
  | .construct _ _, _, _, _ => rfl
  | .await _, _, _, _ => rfl
  | .object [], _, _, _ => rfl
  | .object (_ :: _), _, _, _ => rfl
  | .array _, _, _, _ => rfl
  | .arrow true _ _, _, _, _ => rfl
  | .arrow false _ _, _, _, _ => rfl

/-- Names that are bound are taken for names. -/
theorem opensNames_separated {names : List Identifier}
    (h : ∀ leaf ∈ names.map Leaf.name, leaf.IsReadable) (rest : List Char) :
    opensNames (separated (names.map (·.text.toList)) ++ (" \x7d".toList ++ rest)) = true := by
  cases names with
  | nil => rfl
  | cons name names =>
    have hname : name.isValid = true := h _ List.mem_cons_self
    have hbrace : endsPart (" \x7d".toList ++ rest) = true := rfl
    obtain ⟨tail, htail, hends, -⟩ := exists_separated_append name.text.toList
      (names.map (·.text.toList)) hbrace rfl
    obtain ⟨c, cs, htext, hc⟩ := exists_toList_eq_cons hname
    have hword := parseWord_append (isWord_of_isValid hname) (endsWord_of_endsPart hends)
    simp only [endsPart, Bool.and_eq_true] at hends
    rw [List.map_cons, htail, opensNames, hword, hends.2, Bool.and_true, htext]
    exact bne_iff_ne.mpr fun h => ne_of_isNameChar hc rfl (Option.some.inj h)

/-- The entries of an object are not taken for names. -/
theorem opensNames_writeKey (key : String) (rest : List Char) :
    opensNames (writeKey key ++ ':' :: rest) = false := by
  rw [writeKey]
  split
  · next h =>
    have hword : parseWord (key.toList ++ ':' :: rest) = (key.toList, ':' :: rest) :=
      parseWord_append (isWord_of_isValid h) rfl
    rw [opensNames, hword]
    exact Bool.and_false _
  · rfl

theorem opensParams_brace (rest : List Char) :
    opensParams ('\x7b' :: rest) = (rest.head? == some ' ' && opensNames rest.tail) := rfl

/-- A word that begins no parameter. -/
theorem opensParams_word {word : String} (hword : isWord word.toList = true) {rest : List Char}
    (hrest : endsWord rest = true)
    (h : word = "await" ∨ word = "new" ∨ word = "async" ∧ (after? " (".toList rest).isSome = true) :
    opensParams (word.toList ++ rest) = false := by
  have hparse := parseWord_append hword hrest
  obtain ⟨c, cs, htext, hc⟩ := exists_eq_cons_of_isWord hword
  rw [htext, List.cons_append] at hparse
  rw [htext, List.cons_append, opensParams, if_pos hc, hparse, ← htext]
  rcases h with rfl | rfl | ⟨rfl, h⟩
  · rfl
  · rfl
  · simp only [h, beq_self_eq_true, Bool.and_true, Bool.not_true, Bool.and_false]

/-- **Parameters are taken for parameters.** -/
theorem opensParams_writePattern {pattern : Pattern}
    (h : ∀ leaf ∈ pattern.leaves, leaf.IsReadable) {rest : List Char}
    (hrest : endsName rest = true) : opensParams (writePattern pattern ++ rest) = true := by
  cases pattern with
  | name name =>
    have hname : name.isValid = true := h _ List.mem_cons_self
    have hword := parseWord_append (isWord_of_isValid hname) (endsWord_of_endsName hrest)
    obtain ⟨c, cs, htext, hc⟩ := exists_toList_eq_cons hname
    have hne : ∀ word ∈ Identifier.reservedWords, (name.text.toList != word.toList) = true :=
      fun word hm => bne_iff_ne.mpr fun he => ne_of_isValid hname hm (String.toList_inj.mp he)
    have hawait := hne "await" (by decide)
    have hnew := hne "new" (by decide)
    rw [writePattern]
    rw [htext] at hword hawait hnew ⊢
    rw [List.cons_append] at hword ⊢
    rw [opensParams, if_pos hc, hword]
    simp only [hawait, hnew, after?_of_endsName hrest, Option.isSome_none, Bool.and_false,
      Bool.not_false, Bool.and_true]
  | members names =>
    rw [writePattern, List.append_assoc, List.append_assoc]
    show opensParams ('\x7b' :: ' ' :: _) = true
    rw [opensParams_brace]
    exact opensNames_separated h rest

/-- **An expression in parentheses is not taken for parameters.** -/
theorem opensParams_writeExpr (depth : Nat) {e : Expr} (h : isLoose e = true) (rest : List Char) :
    opensParams (writeExpr depth e ++ rest) = false := by
  cases e with
  | await promise =>
    exact opensParams_word (by decide) rfl (Or.inl (Eq.refl "await"))
  | construct maker args =>
    exact opensParams_word (by decide) rfl (Or.inr (Or.inl (Eq.refl "new")))
  | arrow isAsync params body =>
    cases isAsync with
    | true =>
      exact opensParams_word (by decide) rfl
        (Or.inr (Or.inr ⟨Eq.refl "async", rfl⟩))
    | false => rfl
  | object entries =>
    cases entries with
    | nil => rfl
    | cons entry entries =>
      obtain ⟨key, value⟩ := entry
      have hbrace : endsPart (" \x7d".toList ++ rest) = true := rfl
      obtain ⟨tail, htail, -⟩ := exists_separated_append (writeEntry depth ⟨key, value⟩)
        (writeEntries depth entries) hbrace rfl
      show opensParams ("\x7b ".toList ++ separated (writeEntry depth ⟨key, value⟩
        :: writeEntries depth entries) ++ " \x7d".toList ++ rest) = false
      rw [List.append_assoc, List.append_assoc, htail]
      show opensParams ('\x7b' :: ' ' :: (writeKey key ++ ": ".toList ++ writeExpr depth value
        ++ tail)) = false
      rw [opensParams_brace, List.append_assoc, List.append_assoc]
      exact opensNames_writeKey key _
  | _ => cases h

end Playscript.Script
