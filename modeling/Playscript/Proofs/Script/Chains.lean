import Playscript.Proofs.Script.Parsing
import Playscript.Script.Printer

/-!
# What chains of members and calls are taken for

Whoever runs a script reads it by the rules of the language, and these do not
know from which tree it was written. For names, `this`, members, calls, `new`
and `await` the rules are these: members and arguments bind from left to
right; `await` applies to the whole chain behind it; parentheses group; and
`new` takes the *first* arguments that follow its operand. A reader with
these rules is put down here (`readChain`), apart from the reader that knows
how scripts are written.

The writer puts one and the same things in parentheses in front of a point,
in front of arguments and behind `new`. In front of a point or of arguments a
call needs none. But behind `new` it does: without them its arguments are
taken for those of the construction. So a chain is taken for the tree it was
written from exactly if no call stands in front in an operand of `new`
(`readChain_writeExpr_iff`), and not every chain is
(`not_forall_readChain_writeExpr`).

The reader is a machine with a stack of what is still open. Since `new` is
open until its arguments are found, what an operand of `new` does to the
machine is said apart from what an expression does elsewhere
(`ReadsAs.operand`, `ReadsAs.plain`).
-/

namespace Playscript.Script

/-! ## Chains -/

/-- **A chain**: an expression made of names, `this`, members, calls, `new`
and `await`. -/
inductive IsChain : Expr → Prop
  | ident {name : Identifier} (h : name.isValid = true) : IsChain (.ident name)
  | this : IsChain .this
  | member {object : Expr} {property : Identifier} (hobject : IsChain object)
    (h : property.isValid = true) : IsChain (.member object property)
  | call {callee : Expr} {args : List Expr} (hcallee : IsChain callee)
    (hargs : ∀ arg ∈ args, IsChain arg) : IsChain (.call callee args)
  | construct {maker : Expr} {args : List Expr} (hmaker : IsChain maker)
    (hargs : ∀ arg ∈ args, IsChain arg) : IsChain (.construct maker args)
  | await {promise : Expr} (hpromise : IsChain promise) : IsChain (.await promise)

/-- Whether a call stands in front in an expression, without parentheses
around it. -/
def callsInFront : Expr → Bool
  | .call _ _ => true
  | .member object _ => callsInFront object
  | _ => false

/-- **A chain in which no call stands in front in an operand of `new`.** -/
inductive IsClear : Expr → Prop
  | ident (name : Identifier) : IsClear (.ident name)
  | this : IsClear .this
  | member {object : Expr} {property : Identifier} (hobject : IsClear object) :
    IsClear (.member object property)
  | call {callee : Expr} {args : List Expr} (hcallee : IsClear callee)
    (hargs : ∀ arg ∈ args, IsClear arg) : IsClear (.call callee args)
  | construct {maker : Expr} {args : List Expr} (hfront : callsInFront maker = false)
    (hmaker : IsClear maker) (hargs : ∀ arg ∈ args, IsClear arg) : IsClear (.construct maker args)
  | await {promise : Expr} (hpromise : IsClear promise) : IsClear (.await promise)

/-! ## Tokens -/

/-- **What a chain is written with.** -/
inductive ChainToken where
  /-- A word. -/
  | word (text : String)
  /-- A point. -/
  | point
  /-- A comma. -/
  | comma
  /-- An opening parenthesis. -/
  | opening
  /-- A closing parenthesis. -/
  | closing
deriving DecidableEq

/-- The token of a word; none when there is no word. -/
def wordToken (word : List Char) : List ChainToken :=
  if word = [] then [] else [.word (String.ofList word)]

/-- The tokens of a character that is no part of a word. A blank has
none. -/
def markTokens? : Char → Option (List ChainToken)
  | ' ' => some []
  | '.' => some [.point]
  | ',' => some [.comma]
  | '(' => some [.opening]
  | ')' => some [.closing]
  | _ => none

/-- The word at the front of a text and the tokens behind it. -/
def scan? : List Char → Option (List Char × List ChainToken)
  | [] => some ([], [])
  | c :: rest => do
    let (word, tokens) ← scan? rest
    if Identifier.isNameChar c then return (c :: word, tokens)
    return ([], (← markTokens? c) ++ wordToken word ++ tokens)

/-- **The tokens of a text.** -/
def tokens? (text : List Char) : Option (List ChainToken) := do
  let (word, tokens) ← scan? text
  return wordToken word ++ tokens

/-- Tokens of characters that are no part of a word stand in front of what
follows. -/
theorem tokens?_mark {c : Char} (mark : List ChainToken) (hmark : markTokens? c = some mark)
    (hc : Identifier.isNameChar c = false) (rest : List Char) :
    tokens? (c :: rest) = (tokens? rest).map (mark ++ ·) := by
  unfold tokens?
  rw [scan?]
  cases scan? rest with
  | none => rfl
  | some found => simp [hmark, hc, wordToken]

/-- Where no word goes on, none is found. -/
theorem scan?_of_endsWord {rest : List Char} (h : endsWord rest = true) :
    ∀ found ∈ scan? rest, found.1 = [] := by
  intro found hfound
  cases rest with
  | nil =>
    obtain rfl := Option.some.inj hfound
    rfl
  | cons c rest =>
    have hc : Identifier.isNameChar c = false := by simpa [endsWord] using h
    simp only [scan?, hc, Bool.false_eq_true, if_false, Option.mem_def, Option.bind_eq_bind,
      Option.bind_eq_some_iff, Option.pure_def, Option.some.injEq] at hfound
    obtain ⟨_, -, _, -, rfl⟩ := hfound
    rfl

theorem scan?_append {word rest : List Char}
    (h : ∀ c ∈ word, Identifier.isNameChar c = true) :
    scan? (word ++ rest) = (scan? rest).map fun found => (word ++ found.1, found.2) := by
  induction word with
  | nil => simp
  | cons c word ih =>
    obtain ⟨hc, hword⟩ := List.forall_mem_cons.mp h
    rw [List.cons_append, scan?, ih hword]
    cases scan? rest with
    | none => rfl
    | some found => simp [hc]

/-- The token of a word stands in front of what follows. -/
theorem tokens?_word {word : String} (hword : isWord word.toList = true) {rest : List Char}
    (hrest : endsWord rest = true) :
    tokens? (word.toList ++ rest) = (tokens? rest).map (ChainToken.word word :: ·) := by
  obtain ⟨hne, hchars⟩ := isWord_iff.mp hword
  unfold tokens?
  rw [scan?_append hchars]
  cases hscan : scan? rest with
  | none => rfl
  | some found =>
    have hnone : found.1 = [] := scan?_of_endsWord hrest found hscan
    simp [hnone, wordToken, hne, String.ofList_toList]

/-! ## The reader -/

/-- **What is open**, waiting for what follows. -/
inductive Frame where
  /-- A parenthesis around an expression. -/
  | group
  /-- The arguments behind an expression, with those that stand in front: of
  a construction, or of a call. -/
  | arguments (isNew : Bool) (operand : Expr) (before : List Expr)
  /-- `new`, before its arguments. -/
  | maker
  /-- `await`. -/
  | awaiting

/-- **Where the reader stands.** -/
inductive Cursor where
  /-- In front of an expression. -/
  | start
  /-- Behind an expression, which may go on. -/
  | after (e : Expr)
  /-- Behind an expression and a point. -/
  | point (e : Expr)

/-- **The state of the reader**: where it stands, and what is open, the
innermost first. -/
structure ReaderState where
  /-- Where it stands. -/
  cursor : Cursor
  /-- What is open. -/
  frames : List Frame

/-- What an operand with arguments is. -/
def applied (isNew : Bool) (operand : Expr) (args : List Expr) : Expr :=
  if isNew then .construct operand args else .call operand args

/-- **What an expression belongs to when it does not go on**: `await` applies
to it, and `new` makes it without arguments. -/
def settle : Expr → List Frame → Expr × List Frame
  | e, .awaiting :: frames => settle (.await e) frames
  | e, .maker :: frames => settle (.construct e []) frames
  | e, frames => (e, frames)

/-- Whether `new` is waiting for its operand or its arguments. -/
def isMaking : List Frame → Bool
  | .maker :: _ => true
  | _ => false

/-- Reads a word in front of which no point stands. No operand of `new` can
be awaited. -/
def readWord (word : String) (frames : List Frame) : Option ReaderState :=
  if word = "new" then some ⟨.start, .maker :: frames⟩
  else if word = "await" then
    if isMaking frames then none else some ⟨.start, .awaiting :: frames⟩
  else if word = "this" then some ⟨.after .this, frames⟩
  else if (Identifier.mk word).isValid then some ⟨.after (.ident ⟨word⟩), frames⟩
  else none

/-- Reads an opening parenthesis. Behind an expression it opens arguments, and
those are the arguments of `new` if that is waiting. -/
def readOpening : Cursor → List Frame → Option ReaderState
  | .start, frames => some ⟨.start, .group :: frames⟩
  | .after e, .maker :: frames => some ⟨.start, .arguments true e [] :: frames⟩
  | .after e, frames => some ⟨.start, .arguments false e [] :: frames⟩
  | .point _, _ => none

/-- Reads a comma behind an expression. -/
def readComma (e : Expr) (frames : List Frame) : Option ReaderState :=
  match settle e frames with
  | (arg, .arguments isNew operand before :: frames) =>
    some ⟨.start, .arguments isNew operand (before ++ [arg]) :: frames⟩
  | _ => none

/-- Reads a closing parenthesis behind an expression. -/
def readClosing (e : Expr) (frames : List Frame) : Option ReaderState :=
  match settle e frames with
  | (e, .group :: frames) => some ⟨.after e, frames⟩
  | (arg, .arguments isNew operand before :: frames) =>
    some ⟨.after (applied isNew operand (before ++ [arg])), frames⟩
  | _ => none

/-- **Reads a token.** -/
def ReaderState.step : ReaderState → ChainToken → Option ReaderState
  | ⟨.start, frames⟩, .word word => readWord word frames
  | ⟨.point e, frames⟩, .word word => some ⟨.after (.member e ⟨word⟩), frames⟩
  | ⟨.after e, frames⟩, .point => some ⟨.point e, frames⟩
  | ⟨cursor, frames⟩, .opening => readOpening cursor frames
  | ⟨.after e, frames⟩, .comma => readComma e frames
  | ⟨.after e, frames⟩, .closing => readClosing e frames
  | ⟨.start, .arguments isNew operand before :: frames⟩, .closing =>
    some ⟨.after (applied isNew operand before), frames⟩
  | _, _ => none

/-- Reads a text from some state on. -/
def ReaderState.read (state : ReaderState) (text : List Char) : Option ReaderState := do
  (← tokens? text).foldlM ReaderState.step state

/-- The expression that was read, if nothing is open. -/
def ReaderState.result? : ReaderState → Option Expr
  | ⟨.after e, frames⟩ =>
    match settle e frames with
    | (e, []) => some e
    | _ => none
  | _ => none

/-- **Reads a chain** by the rules of the language. -/
def readChain (text : List Char) : Option Expr := do
  (← ReaderState.read ⟨.start, []⟩ text).result?

namespace ReaderState

/-! ## Reading piece by piece -/

variable (state : ReaderState)

theorem read_blank (rest : List Char) : state.read (' ' :: rest) = state.read rest := by
  unfold read
  rw [tokens?_mark [] rfl (by decide)]
  cases tokens? rest <;> rfl

theorem read_mark {c : Char} (mark : ChainToken) (hmark : markTokens? c = some [mark])
    (hc : Identifier.isNameChar c = false) (rest : List Char) :
    state.read (c :: rest) = (state.step mark).bind (·.read rest) := by
  unfold read
  rw [tokens?_mark _ hmark hc]
  cases tokens? rest with
  | none => cases state.step mark <;> rfl
  | some tokens => rfl

theorem read_word {word : String} (hword : isWord word.toList = true) {rest : List Char}
    (hrest : endsWord rest = true) :
    state.read (word.toList ++ rest) = (state.step (.word word)).bind (·.read rest) := by
  unfold read
  rw [tokens?_word hword hrest]
  cases tokens? rest with
  | none => cases state.step (.word word) <;> rfl
  | some tokens => rfl

end ReaderState

variable {depth : Nat} {e : Expr} {frames : List Frame} {rest : List Char}

open ReaderState

/-- A name that begins an expression. -/
theorem read_name {name : Identifier} (h : name.isValid = true) (frames : List Frame)
    (hrest : endsWord rest = true) :
    read ⟨.start, frames⟩ (name.text.toList ++ rest)
      = read ⟨.after (.ident name), frames⟩ rest := by
  have hstep : step ⟨.start, frames⟩ (.word name.text) = some ⟨.after (.ident name), frames⟩ := by
    show readWord name.text frames = _
    rw [readWord, if_neg (ne_of_isValid h (by decide)), if_neg (ne_of_isValid h (by decide)),
      if_neg (ne_of_isValid h (by decide)), if_pos h]
  rw [read_word _ (isWord_of_isValid h) hrest, hstep, Option.bind_some]

/-- A member of an expression. -/
theorem read_member {name : Identifier} (h : name.isValid = true) (e : Expr) (frames : List Frame)
    (hrest : endsWord rest = true) :
    read ⟨.after e, frames⟩ ('.' :: (name.text.toList ++ rest))
      = read ⟨.after (.member e name), frames⟩ rest := by
  rw [read_mark _ .point rfl (by decide)]
  show read ⟨.point e, frames⟩ (name.text.toList ++ rest) = _
  rw [read_word _ (isWord_of_isValid h) hrest]
  rfl

/-- `new` in front of its operand. -/
theorem read_new (frames : List Frame) (rest : List Char) :
    read ⟨.start, frames⟩ ("new ".toList ++ rest) = read ⟨.start, .maker :: frames⟩ rest := by
  have hword : read ⟨.start, frames⟩ ("new".toList ++ ' ' :: rest) = _ :=
    read_word _ (by decide) rfl
  exact hword.trans (read_blank _ rest)

/-- `await` in front of a chain. -/
theorem read_await (h : isMaking frames = false) (rest : List Char) :
    read ⟨.start, frames⟩ ("await ".toList ++ rest) = read ⟨.start, .awaiting :: frames⟩ rest := by
  have hstep : step ⟨.start, frames⟩ (.word "await") = some ⟨.start, .awaiting :: frames⟩ := by
    show readWord "await" frames = _
    rw [readWord, if_neg (by decide), if_pos rfl, h, if_neg Bool.false_ne_true]
  have hword : read ⟨.start, frames⟩ ("await".toList ++ ' ' :: rest) = _ :=
    read_word _ (by decide) rfl
  rw [hstep] at hword
  exact hword.trans (read_blank _ rest)

/-- Arguments behind an expression, where `new` is not waiting. -/
theorem read_opening (h : isMaking frames = false) (e : Expr) (rest : List Char) :
    read ⟨.after e, frames⟩ ('(' :: rest)
      = read ⟨.start, .arguments false e [] :: frames⟩ rest := by
  have hstep : step ⟨.after e, frames⟩ .opening
      = some ⟨.start, .arguments false e [] :: frames⟩ := by
    cases frames with
    | nil => rfl
    | cons frame frames => cases frame <;> first | rfl | cases h
  rw [read_mark _ .opening rfl (by decide), hstep, Option.bind_some]

/-- Arguments behind an operand of `new`. -/
theorem read_opening_maker (e : Expr) (frames : List Frame) (rest : List Char) :
    read ⟨.after e, .maker :: frames⟩ ('(' :: rest)
      = read ⟨.start, .arguments true e [] :: frames⟩ rest :=
  read_mark _ .opening rfl (by decide) rest

/-- What is read behind an expression that is settled. -/
theorem read_closing_group {inner e : Expr} {innermost : List Frame}
    (h : settle inner innermost = (e, .group :: frames)) (rest : List Char) :
    read ⟨.after inner, innermost⟩ (')' :: rest) = read ⟨.after e, frames⟩ rest := by
  have hstep : step ⟨.after inner, innermost⟩ .closing = some ⟨.after e, frames⟩ := by
    show readClosing inner innermost = _
    rw [readClosing, h]
  rw [read_mark _ .closing rfl (by decide), hstep, Option.bind_some]

section Arguments

variable {isNew : Bool} {operand inner arg : Expr} {before : List Expr} {innermost : List Frame}

theorem read_closing_arguments
    (h : settle inner innermost = (arg, .arguments isNew operand before :: frames))
    (rest : List Char) :
    read ⟨.after inner, innermost⟩ (')' :: rest)
      = read ⟨.after (applied isNew operand (before ++ [arg])), frames⟩ rest := by
  have hstep : step ⟨.after inner, innermost⟩ .closing
      = some ⟨.after (applied isNew operand (before ++ [arg])), frames⟩ := by
    show readClosing inner innermost = _
    rw [readClosing, h]
  rw [read_mark _ .closing rfl (by decide), hstep, Option.bind_some]

theorem read_comma (h : settle inner innermost = (arg, .arguments isNew operand before :: frames))
    (rest : List Char) :
    read ⟨.after inner, innermost⟩ (", ".toList ++ rest)
      = read ⟨.start, .arguments isNew operand (before ++ [arg]) :: frames⟩ rest := by
  have hstep : step ⟨.after inner, innermost⟩ .comma
      = some ⟨.start, .arguments isNew operand (before ++ [arg]) :: frames⟩ := by
    show readComma inner innermost = _
    rw [readComma, h]
  show read _ (',' :: ' ' :: rest) = _
  rw [read_mark _ .comma rfl (by decide), hstep, Option.bind_some, read_blank]

end Arguments

/-! ## What an expression is taken for -/

/-- **An expression is read as some expression**, which is the same one
exactly if it is clear. What is open when it ends depends on what was open
before. -/
structure ReadsAs (depth : Nat) (e : Expr) : Prop where
  /-- Where `new` is not waiting, it is found when it is settled. -/
  settles : ∀ frames, isMaking frames = false → ∃ e' inner innermost, (e' = e ↔ IsClear e)
    ∧ settle inner innermost = settle e' frames
    ∧ ∀ rest, endsWord rest = true → read ⟨.start, frames⟩ (writeExpr depth e ++ rest)
      = read ⟨.after inner, innermost⟩ rest
  /-- If it needs no parentheses, it is found as it ends. -/
  plain : isLoose e = false → ∀ frames, isMaking frames = false → ∃ e', (e' = e ↔ IsClear e)
    ∧ ∀ rest, endsWord rest = true → read ⟨.start, frames⟩ (writeExpr depth e ++ rest)
      = read ⟨.after e', frames⟩ rest
  /-- As an operand of `new`, it leaves that waiting unless a call stands in
  front in it: then the arguments of the call have been taken for those of
  `new`. -/
  operand : isLoose e = false → ∀ frames, isMaking frames = false →
    ∃ e' frames', (callsInFront e = false → frames' = .maker :: frames ∧ (e' = e ↔ IsClear e))
    ∧ (callsInFront e = true → frames' = frames)
    ∧ ∀ rest, endsWord rest = true → read ⟨.start, .maker :: frames⟩ (writeExpr depth e ++ rest)
      = read ⟨.after e', frames'⟩ rest

namespace ReadsAs

/-- What is found as it ends is found when it is settled. -/
theorem settles_of_plain
    (h : ∀ frames, isMaking frames = false → ∃ e', (e' = e ↔ IsClear e)
      ∧ ∀ rest, endsWord rest = true → read ⟨.start, frames⟩ (writeExpr depth e ++ rest)
        = read ⟨.after e', frames⟩ rest) :
    ∀ frames, isMaking frames = false → ∃ e' inner innermost, (e' = e ↔ IsClear e)
      ∧ settle inner innermost = settle e' frames
      ∧ ∀ rest, endsWord rest = true → read ⟨.start, frames⟩ (writeExpr depth e ++ rest)
        = read ⟨.after inner, innermost⟩ rest := by
  intro frames hframes
  obtain ⟨e', hclear, hread⟩ := h frames hframes
  exact ⟨e', e', frames, hclear, rfl, hread⟩

/-- An expression in parentheses is found as they end, whatever is open. -/
theorem grouped (h : ReadsAs depth e) (hloose : isLoose e = true) (frames : List Frame) :
    ∃ e', (e' = e ↔ IsClear e)
      ∧ ∀ rest, endsWord rest = true →
        read ⟨.start, frames⟩ (enclose e (writeExpr depth e) ++ rest)
          = read ⟨.after e', frames⟩ rest := by
  obtain ⟨e', inner, innermost, hclear, hsettle, hread⟩ := h.settles (.group :: frames) rfl
  refine ⟨e', hclear, fun rest hrest => ?_⟩
  rw [enclose, if_pos hloose, List.cons_append, List.append_assoc,
    read_mark _ .opening rfl (by decide)]
  show read ⟨.start, .group :: frames⟩ (writeExpr depth e ++ ')' :: rest) = _
  rw [hread _ rfl]
  exact read_closing_group hsettle rest

/-- **In front of a point or of arguments** an expression is found. -/
theorem enclosed (h : ReadsAs depth e) (hframes : isMaking frames = false) :
    ∃ e', (e' = e ↔ IsClear e)
      ∧ ∀ rest, endsWord rest = true →
        read ⟨.start, frames⟩ (enclose e (writeExpr depth e) ++ rest)
          = read ⟨.after e', frames⟩ rest := by
  by_cases hloose : isLoose e = true
  · exact h.grouped hloose frames
  · rw [enclose, if_neg hloose]
    exact h.plain (eq_false_of_ne_true hloose) frames hframes

theorem callsInFront_of_isLoose (hloose : isLoose e = true) : callsInFront e = false := by
  cases e <;> first | rfl | cases hloose

/-- **Behind `new`** an expression is found, and `new` goes on waiting unless a
call stands in front in it. -/
theorem enclosedOperand (h : ReadsAs depth e) (hframes : isMaking frames = false) :
    ∃ e' frames', (callsInFront e = false → frames' = .maker :: frames ∧ (e' = e ↔ IsClear e))
      ∧ (callsInFront e = true → frames' = frames)
      ∧ ∀ rest, endsWord rest = true →
        read ⟨.start, .maker :: frames⟩ (enclose e (writeExpr depth e) ++ rest)
          = read ⟨.after e', frames'⟩ rest := by
  by_cases hloose : isLoose e = true
  · obtain ⟨e', hclear, hread⟩ := h.grouped hloose (.maker :: frames)
    refine ⟨e', .maker :: frames, fun _ => ⟨rfl, hclear⟩, fun hcalls => ?_, hread⟩
    rw [callsInFront_of_isLoose hloose] at hcalls
    cases hcalls
  · rw [enclose, if_neg hloose]
    exact h.operand (eq_false_of_ne_true hloose) frames hframes

end ReadsAs

/-- **Arguments are read one by one** up to the parenthesis behind them. -/
theorem exists_read_arguments (isNew : Bool) (operand : Expr) {args : List Expr}
    (h : ∀ arg ∈ args, ReadsAs depth arg) (before : List Expr) (frames : List Frame) :
    ∃ args', (args' = args ↔ ∀ arg ∈ args, IsClear arg)
      ∧ ∀ rest, read ⟨.start, .arguments isNew operand before :: frames⟩
          (separated (writeExprs depth args) ++ ')' :: rest)
        = read ⟨.after (applied isNew operand (before ++ args')), frames⟩ rest := by
  induction args generalizing before with
  | nil =>
    refine ⟨[], by simp, fun rest => ?_⟩
    rw [List.append_nil]
    exact read_mark _ .closing rfl (by decide) rest
  | cons arg args ih =>
    obtain ⟨harg, hargs⟩ := List.forall_mem_cons.mp h
    obtain ⟨arg', inner, innermost, hclear, hsettle, hread⟩ :=
      harg.settles (.arguments isNew operand before :: frames) rfl
    obtain ⟨args', hclears, hreads⟩ := ih hargs (before ++ [arg'])
    refine ⟨arg' :: args', ?_, fun rest => ?_⟩
    · rw [List.cons.injEq, hclear, hclears, List.forall_mem_cons]
    cases args with
    | nil =>
      -- behind the last argument stands the parenthesis
      show read _ (writeExpr depth arg ++ ')' :: rest) = _
      rw [hread _ rfl, read_closing_arguments hsettle]
      have hlast : args' = [] := hclears.mpr (List.forall_mem_nil _)
      rw [hlast]
    | cons next args =>
      show read _ (writeExpr depth arg ++ ", ".toList
        ++ separated (writeExprs depth (next :: args)) ++ ')' :: rest) = _
      rw [List.append_assoc, List.append_assoc, hread _ rfl, read_comma hsettle, hreads,
        List.append_assoc]
      rfl

namespace IsClear

theorem member_iff {object : Expr} {property : Identifier} :
    IsClear (.member object property) ↔ IsClear object :=
  ⟨fun h => by cases h; assumption, .member⟩

theorem call_iff {callee : Expr} {args : List Expr} :
    IsClear (.call callee args) ↔ IsClear callee ∧ ∀ arg ∈ args, IsClear arg :=
  ⟨fun h => by cases h; constructor <;> assumption, fun ⟨hcallee, hargs⟩ => .call hcallee hargs⟩

theorem construct_iff {maker : Expr} {args : List Expr} :
    IsClear (.construct maker args)
      ↔ callsInFront maker = false ∧ IsClear maker ∧ ∀ arg ∈ args, IsClear arg :=
  ⟨fun h => by cases h; exact ⟨by assumption, by assumption, by assumption⟩,
    fun ⟨hfront, hmaker, hargs⟩ => .construct hfront hmaker hargs⟩

theorem await_iff {promise : Expr} : IsClear (.await promise) ↔ IsClear promise :=
  ⟨fun h => by cases h; assumption, .await⟩

end IsClear

/-! ## From parts to chains -/

namespace ReadsAs

theorem ident {name : Identifier} (h : name.isValid = true) : ReadsAs depth (.ident name) := by
  have hclear : Expr.ident name = .ident name ↔ IsClear (.ident name) :=
    iff_of_true rfl (.ident name)
  refine ⟨settles_of_plain fun frames _ => ?_, fun _ frames _ => ?_, fun _ frames _ => ?_⟩
  · exact ⟨_, hclear, fun rest => read_name h frames⟩
  · exact ⟨_, hclear, fun rest => read_name h frames⟩
  · exact ⟨_, .maker :: frames, fun _ => ⟨rfl, hclear⟩, nofun, fun rest => read_name h _⟩

theorem this : ReadsAs depth .this := by
  have hclear : Expr.this = .this ↔ IsClear .this := iff_of_true rfl .this
  have hread (frames : List Frame) (rest : List Char) (hrest : endsWord rest = true) :
      read ⟨.start, frames⟩ (writeExpr depth .this ++ rest) = read ⟨.after .this, frames⟩ rest :=
    read_word _ (by decide : isWord "this".toList = true) hrest
  refine ⟨settles_of_plain fun frames _ => ?_, fun _ frames _ => ?_, fun _ frames _ => ?_⟩
  · exact ⟨_, hclear, hread frames⟩
  · exact ⟨_, hclear, hread frames⟩
  · exact ⟨_, .maker :: frames, fun _ => ⟨rfl, hclear⟩, nofun, hread _⟩

theorem member {object : Expr} {property : Identifier} (hobject : ReadsAs depth object)
    (h : property.isValid = true) : ReadsAs depth (.member object property) := by
  have hwritten (rest : List Char) : writeExpr depth (.member object property) ++ rest
      = enclose object (writeExpr depth object) ++ '.' :: (property.text.toList ++ rest) :=
    List.append_assoc _ _ _
  have hclear {object' : Expr} :
      (Expr.member object' property = .member object property ↔ IsClear (.member object property))
        ↔ (object' = object ↔ IsClear object) := by
    rw [IsClear.member_iff, Expr.member.injEq, and_iff_left rfl]
  have hplain : ∀ frames, isMaking frames = false → ∃ e', (e' = .member object property
        ↔ IsClear (.member object property))
      ∧ ∀ rest, endsWord rest = true →
        read ⟨.start, frames⟩ (writeExpr depth (.member object property) ++ rest)
          = read ⟨.after e', frames⟩ rest := by
    intro frames hframes
    obtain ⟨object', hobject', hread⟩ := hobject.enclosed hframes
    refine ⟨.member object' property, hclear.mpr hobject', fun rest hrest => ?_⟩
    rw [hwritten, hread _ rfl, read_member h _ _ hrest]
  refine ⟨settles_of_plain hplain, fun _ => hplain, fun _ frames hframes => ?_⟩
  obtain ⟨object', frames', hwaits, hfound, hread⟩ := hobject.enclosedOperand hframes
  refine ⟨.member object' property, frames', fun hfront => ?_, hfound, fun rest hrest => ?_⟩
  · obtain ⟨hframes', hobject'⟩ := hwaits hfront
    exact ⟨hframes', hclear.mpr hobject'⟩
  · rw [hwritten, hread _ rfl, read_member h _ _ hrest]

section Arguments

variable {operand : Expr} {args : List Expr}

/-- How an operand with arguments is written, in front of what follows. -/
theorem call_append (rest : List Char) : writeExpr depth (.call operand args) ++ rest
    = enclose operand (writeExpr depth operand)
      ++ '(' :: (separated (writeExprs depth args) ++ ')' :: rest) := by
  show enclose operand _ ++ '(' :: (separated _ ++ [')']) ++ rest = _
  simp only [List.append_assoc, List.cons_append, List.nil_append]

theorem construct_append (rest : List Char) : writeExpr depth (.construct operand args) ++ rest
    = "new ".toList ++ (enclose operand (writeExpr depth operand)
      ++ '(' :: (separated (writeExprs depth args) ++ ')' :: rest)) := by
  show "new ".toList ++ enclose operand _ ++ '(' :: (separated _ ++ [')']) ++ rest = _
  simp only [List.append_assoc, List.cons_append, List.nil_append]

theorem call (hoperand : ReadsAs depth operand) (hargs : ∀ arg ∈ args, ReadsAs depth arg) :
    ReadsAs depth (.call operand args) := by
  have hplain : ∀ frames, isMaking frames = false → ∃ e', (e' = .call operand args
        ↔ IsClear (.call operand args))
      ∧ ∀ rest, endsWord rest = true →
        read ⟨.start, frames⟩ (writeExpr depth (.call operand args) ++ rest)
          = read ⟨.after e', frames⟩ rest := by
    intro frames hframes
    obtain ⟨operand', hoperand', hread⟩ := hoperand.enclosed hframes
    obtain ⟨args', hargs', hreads⟩ := exists_read_arguments false operand' hargs [] frames
    refine ⟨.call operand' args', ?_, fun rest _ => ?_⟩
    · rw [IsClear.call_iff, Expr.call.injEq, hoperand', hargs']
    · rw [call_append, hread _ rfl, read_opening hframes, hreads]
      rfl
  refine ⟨settles_of_plain hplain, fun _ => hplain, fun _ frames hframes => ?_⟩
  obtain ⟨operand', frames', hwaits, hfound, hread⟩ := hoperand.enclosedOperand hframes
  by_cases hfront : callsInFront operand = true
  · -- `new` has its arguments, and these belong to a call
    obtain ⟨args', -, hreads⟩ := exists_read_arguments false operand' hargs [] frames
    refine ⟨.call operand' args', frames, nofun, fun _ => rfl, fun rest _ => ?_⟩
    rw [call_append, hread _ rfl, hfound hfront, read_opening hframes, hreads]
    rfl
  · -- the arguments are taken for those of `new`
    obtain ⟨args', -, hreads⟩ := exists_read_arguments true operand' hargs [] frames
    refine ⟨.construct operand' args', frames, nofun, fun _ => rfl, fun rest _ => ?_⟩
    rw [call_append, hread _ rfl, (hwaits (eq_false_of_ne_true hfront)).1, read_opening_maker,
      hreads]
    rfl

theorem construct (hoperand : ReadsAs depth operand) (hargs : ∀ arg ∈ args, ReadsAs depth arg) :
    ReadsAs depth (.construct operand args) := by
  refine ⟨settles_of_plain fun frames hframes => ?_, nofun, nofun⟩
  obtain ⟨operand', frames', hwaits, hfound, hread⟩ := hoperand.enclosedOperand hframes
  by_cases hfront : callsInFront operand = true
  · -- `new` has had its arguments before its own are read
    obtain ⟨args', -, hreads⟩ := exists_read_arguments false operand' hargs [] frames
    refine ⟨.call operand' args', iff_of_false nofun fun hclear => ?_, fun rest _ => ?_⟩
    · rw [(IsClear.construct_iff.mp hclear).1] at hfront
      cases hfront
    · rw [construct_append, read_new, hread _ rfl, hfound hfront, read_opening hframes, hreads]
      rfl
  · have hwaiting : callsInFront operand = false := eq_false_of_ne_true hfront
    obtain ⟨rfl, hoperand'⟩ := hwaits hwaiting
    obtain ⟨args', hargs', hreads⟩ := exists_read_arguments true operand' hargs [] frames
    refine ⟨.construct operand' args', ?_, fun rest _ => ?_⟩
    · rw [IsClear.construct_iff, Expr.construct.injEq, hoperand', hargs', and_iff_right hwaiting]
    · rw [construct_append, read_new, hread _ rfl, read_opening_maker, hreads]
      rfl

end Arguments

theorem await {promise : Expr} (hpromise : ReadsAs depth promise) :
    ReadsAs depth (.await promise) := by
  refine ⟨fun frames hframes => ?_, nofun, nofun⟩
  obtain ⟨promise', inner, innermost, hclear, hsettle, hread⟩ :=
    hpromise.settles (.awaiting :: frames) rfl
  refine ⟨.await promise', inner, innermost, ?_, hsettle.trans ?_, fun rest hrest => ?_⟩
  · rw [IsClear.await_iff, Expr.await.injEq, hclear]
  · rw [settle]
  · show read _ ("await ".toList ++ writeExpr depth promise ++ rest) = _
    rw [List.append_assoc, read_await hframes, hread rest hrest]

end ReadsAs

/-- **Every chain is read as some expression**, by the induction on how it is
made. -/
theorem IsChain.readsAs (h : IsChain e) (depth : Nat) : ReadsAs depth e := by
  induction h with
  | ident h => exact .ident h
  | this => exact .this
  | member _ h hobject => exact .member hobject h
  | call _ _ hcallee hargs => exact .call hcallee hargs
  | construct _ _ hmaker hargs => exact .construct hmaker hargs
  | await _ hpromise => exact .await hpromise

/-- What the text of a chain is taken for. -/
theorem IsChain.exists_readChain (h : IsChain e) (depth : Nat) :
    ∃ e', readChain (writeExpr depth e) = some e' ∧ (e' = e ↔ IsClear e) := by
  obtain ⟨e', inner, innermost, hclear, hsettle, hread⟩ := (h.readsAs depth).settles [] rfl
  have hend : read ⟨.start, []⟩ (writeExpr depth e) = some ⟨.after inner, innermost⟩ := by
    have hnil := hread [] rfl
    rw [List.append_nil] at hnil
    exact hnil
  refine ⟨e', ?_, hclear⟩
  rw [readChain, hend]
  show result? ⟨.after inner, innermost⟩ = _
  rw [result?, hsettle]
  rfl

/-- **The text of a chain means the chain exactly if no call stands in front in
an operand of `new`**. Otherwise the arguments of that call are taken for
those of the construction. -/
theorem readChain_writeExpr_iff (h : IsChain e) (depth : Nat) :
    readChain (writeExpr depth e) = some e ↔ IsClear e := by
  obtain ⟨e', hfound, hclear⟩ := h.exists_readChain depth
  rw [hfound, Option.some.injEq, hclear]

/-- `new (await pages.open()).Login(this).goto()`: a call in an operand of
`new`, but in parentheses. -/
def gotoChain : Expr :=
  .call (.member (.construct (.member (.await (.call (.member (.ident ⟨"pages"⟩) ⟨"open"⟩) []))
    ⟨"Login"⟩) [.this]) ⟨"goto"⟩) []

theorem readChain_goto : readChain (writeExpr 0 gotoChain) = some gotoChain := by
  have hchain : IsChain gotoChain := by
    refine .call (.member (.construct (.member (.await (.call (.member (.ident ?_) ?_) nofun)) ?_)
      (List.forall_mem_singleton.mpr .this)) ?_) nofun
    all_goals decide
  refine (readChain_writeExpr_iff hchain 0).mpr ?_
  exact .call (.member (.construct rfl (.member (.await (.call (.member (.ident _)) nofun)))
    (List.forall_mem_singleton.mpr .this))) nofun

/-- **Not every chain is found again**: the construction of what a call
returns is taken for a call of what was constructed. -/
theorem not_forall_readChain_writeExpr :
    ¬ ∀ (e : Expr) (depth : Nat), IsChain e → readChain (writeExpr depth e) = some e := by
  intro h
  have hchain : IsChain (.construct (.call (.ident ⟨"f"⟩) []) []) :=
    .construct (.call (.ident (by decide)) nofun) nofun
  obtain ⟨e', hfound, hclear⟩ := hchain.exists_readChain 0
  rw [h _ 0 hchain, Option.some.injEq] at hfound
  have hfront := (IsClear.construct_iff.mp (hclear.mp hfound.symm)).1
  cases hfront

end Playscript.Script
