import Playscript.Proofs.Script.Literal
import Playscript.Script.Printer

/-!
# Scanning a script

How the source of a script divides into code and literals is decided from
the left, one character at a time, and what has been decided is kept in a
small state (`Lexer`): whether the last character belongs to code, to a
string, to a regular expression or to a comment, and which brackets of the
code are open. Nothing in it knows how a script was written.

A bracket that closes none or the wrong one stops the scanner, and so does
what begins a literal of another kind: a quote that is not a double one, or
a comment of several lines. A scan that comes to its end has therefore met
none of them.

The statement that carries all proofs about written scripts is `Lexes`: a
text, met in code, is scanned to its end in code, with certain brackets
opened or closed and certain literals found, whatever went before. Such
texts can be put one behind the other (`Lexes.append`), and so a scan
follows the structure of what was written.
-/

namespace Playscript.Script

/-- **The kinds of literals.** -/
inductive LiteralKind where
  /-- Between double quotes. -/
  | string
  /-- Between slashes. -/
  | regex
  /-- From two slashes to the end of the line. -/
  | comment
deriving Repr, DecidableEq

/-- **A literal as it stands in a source**, without what marks its ends. -/
structure Token where
  /-- What kind of literal it is. -/
  kind : LiteralKind
  /-- The characters between its ends. -/
  text : List Char
deriving Repr, DecidableEq

namespace LiteralKind

/-- Whether a character ends a literal. -/
def endsAt : LiteralKind → Char → Bool
  | string, c => c == '"'
  | regex, c => c == '/'
  | comment, c => ['\n', '\r', '\u2028', '\u2029'].contains c

/-- Whether a character takes the next one into a literal. -/
def escapesAt : LiteralKind → Char → Bool
  | string, c | regex, c => c == '\\'
  | comment, _ => false

/-- A comment ends where the printer sees the end of a line. -/
theorem endsAt_comment (c : Char) : endsAt comment c = isLineEnd c := by
  rw [Bool.eq_iff_iff]
  simp [endsAt, isLineEnd, or_assoc]

end LiteralKind

/-- **What the next character is taken for.** -/
inductive LexMode where
  /-- For code. -/
  | code
  /-- For what follows a slash in code. -/
  | slash
  /-- For a part of a literal of which some has been read. -/
  | within (kind : LiteralKind) (read : List Char)
  /-- For a part of a literal, whatever it is. -/
  | escaped (kind : LiteralKind) (read : List Char)

/-- **The state of a scan.** -/
structure Lexer where
  /-- What the next character is taken for. -/
  mode : LexMode
  /-- The brackets of the code that are open, the innermost first. -/
  opened : List Char
  /-- The literals that were found, in order. -/
  found : List Token

/-- The bracket that closes a bracket. -/
def closerOf? : Char → Option Char
  | '(' => some ')'
  | '[' => some ']'
  | '\x7b' => some '\x7d'
  | _ => none

/-- Whether a character closes a bracket. -/
def isCloser (c : Char) : Bool :=
  [')', ']', '\x7d'].contains c

/-- Whether a character begins a literal of a kind that is not read. -/
def isForeign (c : Char) : Bool :=
  c == '\x27' || c == '\x60'

namespace Lexer

/-- The state in front of a source. -/
def start : Lexer := ⟨.code, [], []⟩

/-- A character in code. -/
def stepCode (lexer : Lexer) (c : Char) : Option Lexer :=
  if c = '"' then some { lexer with mode := .within .string [] }
  else if c = '/' then some { lexer with mode := .slash }
  else if (closerOf? c).isSome then some { lexer with opened := c :: lexer.opened }
  else if isCloser c then
    match lexer.opened with
    | bracket :: rest =>
      if closerOf? bracket = some c then some { lexer with opened := rest } else none
    | [] => none
  else if isForeign c then none
  else some lexer

/-- A character in a literal. -/
def stepWithin (lexer : Lexer) (kind : LiteralKind) (read : List Char) (c : Char) : Lexer :=
  if kind.endsAt c then { lexer with mode := .code, found := lexer.found ++ [⟨kind, read⟩] }
  else if kind.escapesAt c then { lexer with mode := .escaped kind (read ++ [c]) }
  else { lexer with mode := .within kind (read ++ [c]) }

/-- **One character.** -/
def step (lexer : Lexer) (c : Char) : Option Lexer :=
  match lexer.mode with
  | .code => lexer.stepCode c
  | .slash =>
    if c = '/' then some { lexer with mode := .within .comment [] }
    else if c = '*' then none
    else some (lexer.stepWithin .regex [] c)
  | .within kind read => some (lexer.stepWithin kind read c)
  | .escaped kind read => some { lexer with mode := .within kind (read ++ [c]) }

/-- Several characters. -/
def run (lexer : Lexer) (source : List Char) : Option Lexer :=
  source.foldlM step lexer

/-- **The scan of a source.** -/
def scan (source : List Char) : Option Lexer :=
  start.run source

@[simp] theorem run_nil (lexer : Lexer) : lexer.run [] = some lexer := rfl

theorem run_cons (lexer : Lexer) (c : Char) (rest : List Char) :
    lexer.run (c :: rest) = (lexer.step c).bind (·.run rest) := rfl

theorem run_append (lexer : Lexer) (text rest : List Char) :
    lexer.run (text ++ rest) = (lexer.run text).bind (·.run rest) :=
  List.foldlM_append

end Lexer

/-! ## Inside a literal -/

/-- **A text stays inside a literal**: the scanner comes to its end without
leaving the literal. -/
def Contained (kind : LiteralKind) (text : List Char) : Prop :=
  ∀ read opened found, Lexer.run ⟨.within kind read, opened, found⟩ text
    = some ⟨.within kind (read ++ text), opened, found⟩

/-- Characters that neither end a literal nor take in the next one. -/
theorem contained_of_forall {kind : LiteralKind} {text : List Char}
    (h : ∀ c ∈ text, kind.endsAt c = false ∧ kind.escapesAt c = false) : Contained kind text := by
  induction text with
  | nil =>
    intro read opened found
    rw [Lexer.run_nil, List.append_nil]
  | cons c text ih =>
    intro read opened found
    obtain ⟨hends, hescapes⟩ := h c List.mem_cons_self
    rw [Lexer.run_cons, Lexer.step]
    simp only [Lexer.stepWithin, hends, hescapes, Bool.false_eq_true, if_false, Option.bind_some]
    rw [ih (fun d hd => h d (List.mem_cons_of_mem _ hd)), List.append_assoc]
    rfl

/-- What the next character is taken for behind a part of a literal. -/
def modeBehind (kind : LiteralKind) (text read : List Char) : LexMode :=
  if takesNext text then .escaped kind read else .within kind read

/-- Nothing ends a literal whose mark is guarded. The invariant is the mode, which
is settled by what stands in front. -/
theorem run_of_guarded {kind : LiteralKind} {mark : Char}
    (hmark : ∀ c, kind.endsAt c = true → c = mark)
    (hescapes : ∀ c, kind.escapesAt c = (c == '\\')) {text front back : List Char}
    (h : Guarded mark text) (he : text = front ++ back) (read opened : List Char)
    (found : List Token) :
    Lexer.run ⟨modeBehind kind front read, opened, found⟩ back
      = some ⟨modeBehind kind text (read ++ back), opened, found⟩ := by
  induction back generalizing front read with
  | nil => rw [Lexer.run_nil, he, List.append_nil, List.append_nil]
  | cons c back ih =>
    have hstep : Lexer.step ⟨modeBehind kind front read, opened, found⟩ c
        = some ⟨modeBehind kind (front ++ [c]) (read ++ [c]), opened, found⟩ := by
      rw [modeBehind, modeBehind, takesNext_concat, Lexer.step]
      cases htaken : takesNext front with
      | true => rfl
      | false =>
        have hends : kind.endsAt c = false := by
          refine Bool.eq_false_iff.mpr fun hc => ?_
          rw [h.taken front back (hmark c hc ▸ he)] at htaken
          cases htaken
        rw [if_neg Bool.false_ne_true]
        dsimp only
        rw [Lexer.stepWithin, hends, hescapes]
        cases c == '\\' <;> rfl
    rw [Lexer.run_cons, hstep, Option.bind_some, ih (by rw [he, List.append_assoc]; rfl),
      List.append_assoc]
    rfl

/-- **What guards its mark stays inside a literal.** -/
theorem contained_of_guarded {kind : LiteralKind} {mark : Char}
    (hmark : ∀ c, kind.endsAt c = true → c = mark)
    (hescapes : ∀ c, kind.escapesAt c = (c == '\\')) {text : List Char} (h : Guarded mark text) :
    Contained kind text := by
  intro read opened found
  have hrun := run_of_guarded hmark hescapes h (List.nil_append text).symm read opened found
  rw [modeBehind, modeBehind, h.closed] at hrun
  exact hrun

/-- **A text written as a string stays inside the string.** -/
theorem contained_escape (cs : List Char) : Contained .string (escape cs) :=
  contained_of_guarded (fun _ => eq_of_beq) (fun _ => rfl) (guarded_escape cs)

/-- **A text written as a regular expression stays inside it.** -/
theorem contained_regexText (text : String) : Contained .regex (regexText (regexBody text)) :=
  contained_of_guarded (fun _ => eq_of_beq) (fun _ => rfl) (guarded_regexText text)

/-- **A line of a comment stays inside the comment.** -/
theorem contained_commentLine {cs line : List Char} (h : line ∈ commentLines cs) :
    Contained .comment line :=
  contained_of_forall fun c hd =>
    ⟨(LiteralKind.endsAt_comment c).trans (isLineEnd_of_mem_commentLines h hd), rfl⟩

/-! ## From code to code -/

/-- **A text is scanned from code to code**: met in code with some brackets
open, it leaves others open and adds literals to those that were found.
Brackets that are further out play no part. -/
def Lexes (before after : List Char) (text : List Char) (tokens : List Token) : Prop :=
  ∀ outer found, Lexer.run ⟨.code, before ++ outer, found⟩ text
    = some ⟨.code, after ++ outer, found ++ tokens⟩

section Lexes

variable {first middle last text rest : List Char} {tokens others : List Token}

theorem Lexes.append (h : Lexes first middle text tokens) (h' : Lexes middle last rest others) :
    Lexes first last (text ++ rest) (tokens ++ others) := by
  intro outer found
  rw [Lexer.run_append, h, Option.bind_some, h', List.append_assoc]

/-- Code behind a text adds no literals. -/
theorem Lexes.behind (h : Lexes first middle text tokens) (h' : Lexes middle last rest []) :
    Lexes first last (text ++ rest) tokens := by
  have hboth := h.append h'
  rwa [List.append_nil] at hboth

/-- Code in front of a text adds no literals. -/
theorem Lexes.before (h : Lexes middle last text tokens) (h' : Lexes first middle rest []) :
    Lexes first last (rest ++ text) tokens := h'.append h

/-- What leaves brackets alone leaves them alone wherever it stands. -/
theorem Lexes.inside (h : Lexes [] [] text tokens) (opened : List Char) :
    Lexes opened opened text tokens :=
  fun outer found => h (opened ++ outer) found

/-- A fixed text without literals, found out by scanning it. -/
theorem lexes_of_run
    (h : ∀ outer found, Lexer.run ⟨.code, first ++ outer, found⟩ text
      = some ⟨.code, last ++ outer, found⟩) : Lexes first last text [] := by
  intro outer found
  rw [h, List.append_nil]

theorem lexes_nil : Lexes [] [] [] [] := lexes_of_run fun _ _ => rfl

/-- Nothing is found where nothing is read. -/
theorem Lexes.eq_nil (h : Lexes [] [] [] tokens) : tokens = [] := by
  have hrun := h [] []
  rw [Lexer.run_nil, Option.some.injEq, Lexer.mk.injEq] at hrun
  exact hrun.2.2.symm

/-- Parentheses around a text. -/
theorem Lexes.enclosed (h : Lexes [] [] text tokens) :
    Lexes [] [] ('(' :: (text ++ [')'])) tokens := by
  have hopen : Lexes [] ['('] ['('] [] := lexes_of_run fun _ _ => rfl
  have hclose : Lexes ['('] [] [')'] [] := lexes_of_run fun _ _ => rfl
  exact ((h.inside _).behind hclose).before hopen

/-- Square brackets around a text. -/
theorem Lexes.bracketed (h : Lexes [] [] text tokens) :
    Lexes [] [] ('[' :: (text ++ [']'])) tokens := by
  have hopen : Lexes [] ['['] ['['] [] := lexes_of_run fun _ _ => rfl
  have hclose : Lexes ['['] [] [']'] [] := lexes_of_run fun _ _ => rfl
  exact ((h.inside _).behind hclose).before hopen

/-- A part in front of parts with commas between them. -/
theorem Lexes.separated_cons {parts : List (List Char)} (h : Lexes [] [] text tokens)
    (h' : Lexes [] [] (separated parts) others) :
    Lexes [] [] (separated (text :: parts)) (tokens ++ others) := by
  cases parts with
  | nil =>
    rw [h'.eq_nil, List.append_nil]
    exact h
  | cons next parts =>
    have hcomma : Lexes [] [] ", ".toList [] := lexes_of_run fun _ _ => rfl
    exact (h.behind hcomma).append h'

/-- A part in front of parts with line feeds between them. -/
theorem Lexes.intercalate_cons {parts : List (List Char)} (h : Lexes [] [] text tokens)
    (h' : Lexes [] [] (['\n'].intercalate parts) others) :
    Lexes [] [] (['\n'].intercalate (text :: parts)) (tokens ++ others) := by
  cases parts with
  | nil =>
    rw [List.intercalate_nil] at h'
    rw [h'.eq_nil, List.append_nil, List.intercalate_singleton]
    exact h
  | cons next parts =>
    have hfeed : Lexes [] [] ['\n'] [] := lexes_of_run fun _ _ => rfl
    rw [List.intercalate_cons_cons]
    exact (h.behind hfeed).append h'

end Lexes

/-! ## Words and literals -/

/-- Whether a character means nothing to the scanner when it stands in
code. -/
def isPlain (c : Char) : Bool :=
  c != '"' && c != '/' && (closerOf? c).isNone && !isCloser c && !isForeign c

/-- **Plain characters are code and leave everything as it was.** -/
theorem lexes_of_isPlain {text : List Char} (h : ∀ c ∈ text, isPlain c = true) :
    Lexes [] [] text [] := by
  induction text with
  | nil => exact lexes_nil
  | cons c text ih =>
    have hc : Lexes [] [] [c] [] := by
      refine lexes_of_run fun outer found => ?_
      have hplain := h c List.mem_cons_self
      simp only [isPlain, Bool.and_eq_true, bne_iff_ne, Option.isNone_iff_eq_none,
        Bool.not_eq_true'] at hplain
      obtain ⟨⟨⟨⟨hquote, hslash⟩, hopener⟩, hcloser⟩, hforeign⟩ := hplain
      rw [Lexer.run_cons, Lexer.step, Lexer.stepCode, if_neg hquote, if_neg hslash, hopener,
        if_neg (by simp), hcloser, if_neg (by simp), hforeign, if_neg (by simp)]
      rfl
    exact (ih fun d hd => h d (List.mem_cons_of_mem _ hd)).before hc

/-- The characters of names are plain. -/
theorem isPlain_of_isNameChar {c : Char} (h : Identifier.isNameChar c = true) :
    isPlain c = true := by
  have hmarks : ∀ d ∈ ['"', '/', '(', '[', '\x7b', ')', ']', '\x7d', '\x27', '\x60'], c ≠ d :=
    fun d hd => ne_of_isNameChar h
      (forall_mem_of_all (p := (Identifier.isNameChar · = false)) (by decide) d hd)
  simp only [List.mem_cons, List.not_mem_nil, or_false, forall_eq_or_imp, forall_eq] at hmarks
  obtain ⟨hquote, hslash, hopen, hbracket, hbrace, hclose, hbracket', hbrace', hsingle, htick⟩ :=
    hmarks
  simp [isPlain, closerOf?, isCloser, isForeign, hquote, hslash, hclose, hbracket', hbrace',
    hsingle, htick]

theorem lexes_name {name : Identifier} (h : name.isValid = true) :
    Lexes [] [] name.text.toList [] :=
  lexes_of_isPlain fun c hc => isPlain_of_isNameChar ((Identifier.isValid_iff.mp h).1.chars c hc)

theorem lexes_indent (depth : Nat) : Lexes [] [] (indent depth) [] := by
  refine lexes_of_isPlain fun c hc => ?_
  rw [List.eq_of_mem_replicate hc]
  rfl

/-- **A string is found as a literal**, with its text as it is written. -/
theorem lexes_quote (text : String) :
    Lexes [] [] (quote text) [⟨.string, escape text.toList⟩] := by
  intro outer found
  rw [quote, Lexer.run_cons]
  show (Lexer.run ⟨.within .string [], outer, found⟩ _) = _
  rw [Lexer.run_append, contained_escape, Option.bind_some]
  rfl

/-- **A regular expression is found as a literal.** -/
theorem lexes_slashed {body : String} (h : ∃ text, body = regexBody text) :
    Lexes [] [] (slashed body) [⟨.regex, regexText body⟩] := by
  obtain ⟨text, rfl⟩ := h
  intro outer found
  obtain ⟨c, rest, hw, hslash, hstar⟩ := exists_regexText_eq_cons text
  -- the first character settles that the slash in front begins no comment
  have hbegin : Lexer.run ⟨.slash, outer, found⟩ (regexText (regexBody text) ++ ['/'])
      = Lexer.run ⟨.within .regex [], outer, found⟩ (regexText (regexBody text) ++ ['/']) := by
    rw [hw, List.cons_append, Lexer.run_cons, Lexer.run_cons]
    simp only [Lexer.step, if_neg hslash, if_neg hstar, Lexer.stepWithin]
  rw [slashed_eq, Lexer.run_cons]
  show (Lexer.run ⟨.slash, outer, found⟩ _) = _
  rw [hbegin, Lexer.run_append, contained_regexText, Option.bind_some]
  rfl

/-- **A line of a comment is found as a literal**, once it is ended. -/
theorem lexes_commentLine {cs line : List Char} (h : line ∈ commentLines cs) :
    Lexes [] [] ("// ".toList ++ line ++ ['\n']) [⟨.comment, ' ' :: line⟩] := by
  intro outer found
  rw [List.append_assoc, Lexer.run_append]
  show (Lexer.run ⟨.within .comment [' '], outer, found⟩ _) = _
  rw [Lexer.run_append, contained_commentLine h, Option.bind_some]
  rfl

end Playscript.Script
