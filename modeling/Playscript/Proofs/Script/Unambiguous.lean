import Playscript.Proofs.Script.Parsing

/-!
# A written script is the script of one tree

The reader finds the tree that a text was written from, whatever stands
behind the text. So no two trees are written alike.

How far an expression reaches is the one thing that is not a matter of its
own text. Members and arguments that follow it belong to it; and an
expression that must not take them stands in parentheses. This is why two
things are said of an expression together (`ReadsBack`): it is found where
nothing follows that could belong to it, and where something may follow, it
is found and the reader goes on with it. The second holds only of those that
are written without parentheses (`ReadsBack.enclosed`), and by it a chain of
members and calls is read from its left end, though it was written from its
right.

What the reader does with each part is put into rules first, which say how
a part is read when the parts in it are. Only they look at how the reader is
made.
-/

namespace Playscript.Script

/-! ## Expressions and what follows them -/

/-- An expression is read up to what follows it, and then with that. -/
theorem reads_expr {input middle : List Char} {e : Expr} {result : Expr × List Char}
    (h : Reads .primary input (e, middle)) (h' : Reads (.suffixes e) middle result) :
    Reads .expr input result := by
  refine reads_iff.mpr ?_
  filter_upwards [h, h'] with depth h h'
  show parseExpr (readWithin depth) input = _
  rw [parseExpr, h]
  exact h'

/-- Where an expression does not go on, it is read to its end. -/
theorem reads_suffixes_of_ends (e : Expr) {rest : List Char} (h : endsExpr rest = true) :
    Reads (.suffixes e) rest (e, rest) := by
  refine reads_iff.mpr (.of_forall fun depth => ?_)
  show parseSuffixes (readWithin depth) e rest = _
  simp only [endsExpr, Bool.and_eq_true, bne_iff_ne] at h
  rw [parseSuffixes.eq_def]
  split
  · exact absurd rfl h.1.2
  · exact absurd rfl h.2
  · rfl

/-- A member of an expression. -/
theorem reads_suffixes_member (e : Expr) {name : Identifier} (h : name.isValid = true)
    {rest : List Char} (hrest : endsWord rest = true) {result : Expr × List Char}
    (hresult : Reads (.suffixes (.member e name)) rest result) :
    Reads (.suffixes e) ('.' :: (name.text.toList ++ rest)) result := by
  refine reads_iff.mpr ?_
  filter_upwards [hresult] with depth hresult
  show parseSuffixes (readWithin depth) e ('.' :: (name.text.toList ++ rest)) = _
  rw [parseSuffixes, parseName_append h hrest]
  exact hresult

/-- Arguments behind an expression. -/
theorem reads_suffixes_call (e : Expr) {input rest : List Char} {args : List Expr}
    {result : Expr × List Char} (h : Reads (.exprs ')') input (args, rest))
    (hresult : Reads (.suffixes (.call e args)) rest result) :
    Reads (.suffixes e) ('(' :: input) result := by
  refine reads_iff.mpr ?_
  filter_upwards [h, hresult] with depth h hresult
  show parseSuffixes (readWithin depth) e ('(' :: input) = _
  rw [parseSuffixes, h]
  exact hresult

/-- An expression that begins with a word. -/
theorem reads_primary_word {word : String} (hword : isWord word.toList = true) {rest : List Char}
    (hrest : endsWord rest = true) {result : Expr × List Char}
    (h : Reads (.named ⟨word⟩) rest result) : Reads .primary (word.toList ++ rest) result := by
  have hname := parseName_word hword hrest
  obtain ⟨c, cs, htext, hc⟩ := exists_eq_cons_of_isWord hword
  refine reads_iff.mpr ?_
  filter_upwards [h] with depth h
  show parsePrimary (readWithin depth) (word.toList ++ rest) = _
  rw [htext, List.cons_append] at hname ⊢
  generalize cs ++ rest = input at hname ⊢
  -- no character of a name begins an expression of another kind
  rw [parsePrimary, hname]
  · exact h
  all_goals
  · rintro _ ⟨⟩
    cases hc

theorem reads_primary_text (text : String) (rest : List Char) :
    Reads .primary ('"' :: (escape text.toList ++ '"' :: rest)) (.str text, rest) := by
  refine reads_iff.mpr (.of_forall fun depth => ?_)
  show (parseText (escape text.toList ++ '"' :: rest)).map _ = _
  rw [parseText_escape, Option.map_some, String.ofList_toList]

theorem reads_primary_regex (text : String) (rest : List Char) :
    Reads .primary (slashed (regexBody text) ++ rest) (.regex (regexBody text), rest) := by
  refine reads_iff.mpr (.of_forall fun depth => ?_)
  rw [slashed_eq, List.cons_append, List.append_assoc, List.singleton_append]
  show (parseRegex _).map _ = _
  rw [parseRegex_regexText, Option.map_some, bodyOf_regexText]

theorem reads_primary_array {input rest : List Char} {items : List Expr}
    (h : Reads (.exprs ']') input (items, rest)) :
    Reads .primary ('[' :: input) (.array items, rest) := by
  refine reads_iff.mpr ?_
  filter_upwards [h] with depth h
  show (readWithin depth (.exprs ']') input).bind _ = _
  rw [h]
  rfl

/-- An object without entries. -/
theorem reads_primary_braces (rest : List Char) :
    Reads .primary ('\x7b' :: '\x7d' :: rest) (.object [], rest) := by
  exact reads_iff.mpr (.of_forall fun _ => rfl)

theorem reads_primary_object {input rest : List Char} {entries : List Entry}
    (h : Reads .entries input (entries, rest)) :
    Reads .primary ('\x7b' :: ' ' :: input) (.object entries, rest) := by
  refine reads_iff.mpr ?_
  filter_upwards [h] with depth h
  show (readWithin depth .entries input).bind _ = _
  rw [h]
  rfl

/-- An expression in parentheses. -/
theorem reads_primary_enclosed {input rest : List Char} {e : Expr}
    (hopens : opensParams input = false) (h : Reads .expr input (e, ')' :: rest)) :
    Reads .primary ('(' :: input) (e, rest) := by
  refine reads_iff.mpr ?_
  filter_upwards [h] with depth h
  show (if opensParams input then _ else (readWithin depth .expr input).bind _) = _
  rw [hopens, if_neg Bool.false_ne_true, h]
  rfl

theorem reads_primary_arrow {input : List Char} {result : Expr × List Char}
    (hopens : opensParams input = true) (h : Reads (.arrow false) input result) :
    Reads .primary ('(' :: input) result := by
  refine reads_iff.mpr ?_
  filter_upwards [h] with depth h
  show (if opensParams input then readWithin depth (.arrow false) input else _) = _
  rw [hopens, if_pos rfl]
  exact h

/-- **An expression is read back** from a text, where it ends and where it
may go on. -/
structure ReadsBack (e : Expr) (written : List Char) : Prop where
  /-- Where it does not go on. -/
  ends : ∀ {rest}, endsExpr rest = true → Reads .expr (written ++ rest) (e, rest)
  /-- Where it may go on, if it stands without parentheses there. -/
  goesOn : isLoose e = false → ∀ {rest result}, endsName rest = true →
    Reads (.suffixes e) rest result → Reads .expr (written ++ rest) result

/-- What may go on is read to its end where it does not. -/
theorem readsBack_of_goesOn {e : Expr} {written : List Char}
    (h : ∀ {rest result}, endsName rest = true → Reads (.suffixes e) rest result →
      Reads .expr (written ++ rest) result) : ReadsBack e written where
  ends hrest := h (endsName_of_endsExpr hrest) (reads_suffixes_of_ends e hrest)
  goesOn _ := h

/-- What is read without looking for more. -/
theorem readsBack_of_primary {e : Expr} {written : List Char}
    (h : ∀ {rest}, endsName rest = true → Reads .primary (written ++ rest) (e, rest)) :
    ReadsBack e written :=
  readsBack_of_goesOn fun hrest hresult => reads_expr (h hrest) hresult

/-- What stands in parentheses wherever it may go on. -/
theorem readsBack_of_loose {e : Expr} {written : List Char} (hloose : isLoose e = true)
    (h : ∀ {rest}, endsExpr rest = true → Reads .primary (written ++ rest) (e, rest)) :
    ReadsBack e written where
  ends hrest := reads_expr (h hrest) (reads_suffixes_of_ends e hrest)
  goesOn hnot := absurd hloose (by simp [hnot])

/-- A word that is read as an expression. -/
theorem readsBack_word {word : String} (hword : isWord word.toList = true)
    (hnew : word ≠ "new") (hawait : word ≠ "await") :
    ReadsBack (exprOfName ⟨word⟩) word.toList := by
  refine readsBack_of_primary fun {rest} hrest => ?_
  refine reads_primary_word hword (endsWord_of_endsName hrest) ?_
  refine reads_iff.mpr (.of_forall fun depth => ?_)
  show parseNamed (readWithin depth) ⟨word⟩ rest = _
  rw [parseNamed, if_neg hnew, if_neg hawait, after?_of_endsName hrest]

theorem readsBack_exprWord (word : String) (h : word ∈ exprWords) :
    ReadsBack (exprOfName ⟨word⟩) word.toList := by
  have hall : ∀ word ∈ exprWords, isWord word.toList = true
      ∧ word ≠ "new" ∧ word ≠ "await" := by decide
  obtain ⟨hword, hnew, hawait⟩ := hall word h
  exact readsBack_word hword hnew hawait

theorem readsBack_name {name : Identifier} (h : name.isValid = true) :
    ReadsBack (.ident name) name.text.toList := by
  have hread := readsBack_word (isWord_of_isValid h) (ne_of_isValid h (by decide))
    (ne_of_isValid h (by decide))
  rw [exprOfName, if_neg (ne_of_isValid h (by decide)), if_neg (ne_of_isValid h (by decide)),
    if_neg (ne_of_isValid h (by decide)), if_neg (ne_of_isValid h (by decide)),
    if_neg (ne_of_isValid h (by decide))] at hread
  exact hread

/-- **What stands in front of a point or of arguments is read, and the reader
goes on with it**, be it in parentheses or not. -/
theorem ReadsBack.enclosed {depth : Nat} {e : Expr} (h : ReadsBack e (writeExpr depth e))
    {rest : List Char} (hrest : endsName rest = true) {result : Expr × List Char}
    (hresult : Reads (.suffixes e) rest result) :
    Reads .expr (enclose e (writeExpr depth e) ++ rest) result := by
  rw [enclose]
  split
  · next hloose =>
    rw [List.cons_append, List.append_assoc]
    exact reads_expr (reads_primary_enclosed (opensParams_writeExpr depth hloose _) (h.ends rfl))
      hresult
  · next htight => exact h.goesOn (by simpa using htight) hrest hresult

/-- A construction is read as the call behind the word. -/
theorem reads_named_new {input rest : List Char} {maker : Expr} {args : List Expr}
    (h : Reads .expr input (.call maker args, rest)) :
    Reads (.named ⟨"new"⟩) (' ' :: input) (.construct maker args, rest) := by
  refine reads_iff.mpr ?_
  filter_upwards [h] with depth h
  show parseNamed (readWithin depth) ⟨"new"⟩ (' ' :: input) = _
  rw [parseNamed, if_pos rfl, List.tail_cons, h]
  rfl

theorem reads_named_await {input rest : List Char} {promise : Expr}
    (h : Reads .expr input (promise, rest)) :
    Reads (.named ⟨"await"⟩) (' ' :: input) (.await promise, rest) := by
  refine reads_iff.mpr ?_
  filter_upwards [h] with depth h
  show parseNamed (readWithin depth) ⟨"await"⟩ (' ' :: input) = _
  rw [parseNamed, if_neg (by decide), if_pos rfl, List.tail_cons, h]
  rfl

theorem reads_named_async {input : List Char} {result : Expr × List Char}
    (h : Reads (.arrow true) input result) :
    Reads (.named ⟨"async"⟩) (" (".toList ++ input) result := by
  refine reads_iff.mpr ?_
  filter_upwards [h] with depth h
  show parseNamed (readWithin depth) ⟨"async"⟩ (" (".toList ++ input) = _
  rw [parseNamed, if_neg (by decide), if_neg (by decide), after?_append]
  exact h

/-! ## Lists -/

/-- An expression does not begin with a bracket that closes. -/
theorem after?_of_opensExpr {input : List Char} (h : opensExpr input = true) {close : Char}
    (hclose : close = ')' ∨ close = ']') : after? [close] input = none := by
  cases input with
  | nil => rfl
  | cons c input =>
    refine after?_of_ne ?_ _ _
    rintro rfl
    rcases hclose with rfl | rfl <;> cases h

theorem reads_exprs_close (close : Char) (rest : List Char) :
    Reads (.exprs close) (close :: rest) ([], rest) := by
  refine reads_iff.mpr (.of_forall fun depth => ?_)
  show parseExprs (readWithin depth) close (close :: rest) = _
  rw [parseExprs, after?, if_pos rfl, after?]

/-- An expression in front of others. -/
theorem reads_exprs_cons {close : Char} {input tail rest : List Char} {e : Expr} {es : List Expr}
    (hclose : after? [close] input = none) (he : Reads .expr input (e, tail))
    (hes : Reads (.exprs close) (afterComma tail) (es, rest)) :
    Reads (.exprs close) input (e :: es, rest) := by
  refine reads_iff.mpr ?_
  filter_upwards [he, hes] with depth he hes
  show parseExprs (readWithin depth) close input = _
  rw [parseExprs, hclose]
  simp only [he, hes, Option.bind_eq_bind, Option.bind_some, Option.pure_def]

theorem reads_entries_close (rest : List Char) :
    Reads .entries (" \x7d".toList ++ rest) ([], rest) := by
  refine reads_iff.mpr (.of_forall fun depth => ?_)
  show parseEntries (readWithin depth) (" \x7d".toList ++ rest) = _
  rw [parseEntries, after?_append]

/-- An entry in front of others. -/
theorem reads_entries_cons {input middle tail rest : List Char} {key : String} {value : Expr}
    {entries : List Entry} (hclose : after? " \x7d".toList input = none)
    (hkey : parseKey input = some (key, ": ".toList ++ middle))
    (hvalue : Reads .expr middle (value, tail))
    (hentries : Reads .entries (afterComma tail) (entries, rest)) :
    Reads .entries input (⟨key, value⟩ :: entries, rest) := by
  refine reads_iff.mpr ?_
  filter_upwards [hvalue, hentries] with depth hvalue hentries
  show parseEntries (readWithin depth) input = _
  rw [parseEntries, hclose]
  simp only [hkey, after?_append, hvalue, hentries, Option.bind_eq_bind, Option.bind_some,
    Option.pure_def]

theorem reads_value_equals {input rest : List Char} {value : Expr}
    (h : Reads .expr input (value, rest)) :
    Reads .value (" = ".toList ++ input) (some value, rest) := by
  refine reads_iff.mpr ?_
  filter_upwards [h] with depth h
  show parseValue (readWithin depth) (" = ".toList ++ input) = _
  rw [parseValue, after?_append]
  simp only [h, Option.bind_eq_bind, Option.bind_some, Option.pure_def]

theorem reads_value_none {input : List Char} (h : after? " = ".toList input = none) :
    Reads .value input (none, input) := by
  refine reads_iff.mpr (.of_forall fun depth => ?_)
  show parseValue (readWithin depth) input = _
  rw [parseValue, h]

theorem reads_params_close (rest : List Char) : Reads .params (')' :: rest) ([], rest) := by
  refine reads_iff.mpr (.of_forall fun depth => ?_)
  show parseParams (readWithin depth) (')' :: rest) = _
  rw [parseParams, after?, if_pos rfl, after?]

/-- A parameter in front of others. -/
theorem reads_params_cons {input middle tail rest : List Char} {param : Param}
    {params : List Param} (hclose : after? [')'] input = none)
    (hpattern : Reads .pattern input (param.pattern, middle))
    (hvalue : Reads .value middle (param.fallback, tail))
    (hparams : Reads .params (afterComma tail) (params, rest)) :
    Reads .params input (param :: params, rest) := by
  obtain ⟨pattern, fallback⟩ := param
  refine reads_iff.mpr ?_
  filter_upwards [hpattern, hvalue, hparams] with depth hpattern hvalue hparams
  show parseParams (readWithin depth) input = _
  rw [parseParams, hclose]
  simp only [hpattern, hvalue, hparams, Option.bind_eq_bind, Option.bind_some, Option.pure_def]

/-- A pattern does not begin with a parenthesis that closes. -/
theorem after?_writePattern {pattern : Pattern} (h : ∀ leaf ∈ pattern.leaves, leaf.IsReadable)
    (rest : List Char) : after? [')'] (writePattern pattern ++ rest) = none := by
  cases pattern with
  | name name =>
    obtain ⟨c, cs, htext, hc⟩ := exists_toList_eq_cons (h _ List.mem_cons_self)
    rw [writePattern, htext]
    exact after?_of_ne (ne_of_isNameChar hc rfl).symm _ _
  | members names => rfl

/-- **The parameters of an arrow function are taken for parameters.** -/
theorem opensParams_writeParams (depth : Nat) {params : List Param}
    (h : ∀ leaf ∈ leavesOfParams params, leaf.IsReadable) (rest : List Char) :
    opensParams (separated (writeParams depth params) ++ ')' :: rest) = true := by
  cases params with
  | nil => rfl
  | cons param params =>
    obtain ⟨pattern, fallback⟩ := param
    have hclose : endsPart (')' :: rest) = true := rfl
    obtain ⟨tail, htail, hends, -⟩ := exists_separated_append
      (writeParam depth ⟨pattern, fallback⟩) (writeParams depth params) hclose rfl
    show opensParams (separated (writeParam depth ⟨pattern, fallback⟩ :: writeParams depth params)
      ++ ')' :: rest) = true
    rw [htail]
    have hparam := (List.forall_mem_append.mp h).1
    cases fallback with
    | none => exact opensParams_writePattern hparam (endsName_of_endsPart hends)
    | some value =>
      show opensParams (writePattern pattern ++ " = ".toList ++ writeExpr depth value ++ tail)
        = true
      rw [List.append_assoc, List.append_assoc]
      exact opensParams_writePattern (List.forall_mem_append.mp hparam).1 rfl

/-! ## Functions -/

/-- An arrow function, from its parameters on. -/
theorem reads_arrow (isAsync : Bool) {input middle rest : List Char} {params : List Param}
    {body : List Stmt} (hparams : Reads .params input (params, " => \x7b\n".toList ++ middle))
    (hbody : Reads .stmts middle (body, '\x7d' :: rest)) :
    Reads (.arrow isAsync) input (.arrow isAsync params body, rest) := by
  refine reads_iff.mpr ?_
  filter_upwards [hparams, hbody] with depth hparams hbody
  show parseArrow (readWithin depth) isAsync input = _
  rw [parseArrow, hparams]
  simp only [after?_append, hbody, Option.bind_eq_bind, Option.bind_some, Option.pure_def]
  rfl

theorem parseModifier_self (modifier : String) (h : isWord modifier.toList = true)
    (rest : List Char) :
    parseModifier modifier (modifier.toList ++ ' ' :: rest) = (true, rest) := by
  rw [parseModifier, parseWord_append h rfl]
  exact if_pos rfl

/-- Another modifier is not taken for one. -/
theorem parseModifier_of_ne (modifier other : String)
    (hother : isWord other.toList = true) (hne : other.toList ≠ modifier.toList)
    (rest : List Char) :
    parseModifier modifier (other.toList ++ ' ' :: rest)
      = (false, other.toList ++ ' ' :: rest) := by
  rw [parseModifier, parseWord_append hother rfl]
  exact if_neg hne

/-- A name in front of parameters is no modifier. -/
theorem parseModifier_name (modifier : String) {name : Identifier} (h : name.isValid = true)
    (rest : List Char) :
    parseModifier modifier (name.text.toList ++ '(' :: rest)
      = (false, name.text.toList ++ '(' :: rest) := by
  rw [parseModifier, parseWord_append (isWord_of_isValid h) rfl]
  rfl

/-- **A member of a class**, when its parameters and its statements are read
back. -/
theorem reads_member {name : Identifier} (hname : name.isValid = true) (kind : MemberKind)
    (isAsync : Bool) {input middle rest : List Char} {params : List Param} {body : List Stmt}
    (hparams : Reads .params input (params, " \x7b\n".toList ++ middle))
    (hbody : Reads .stmts middle (body, "\x7d\n".toList ++ rest)) :
    Reads .member ((if isAsync then "async " else "").toList
        ++ ((if kind = .getter then "get " else "").toList ++ (name.text.toList ++ '(' :: input)))
      (⟨name, kind, isAsync, params, body⟩, rest) := by
  have hasync : parseModifier "async" ((if isAsync then "async " else "").toList
        ++ ((if kind = .getter then "get " else "").toList ++ (name.text.toList ++ '(' :: input)))
      = (isAsync, (if kind = .getter then "get " else "").toList
        ++ (name.text.toList ++ '(' :: input)) := by
    cases isAsync with
    | true => exact parseModifier_self "async" (by decide) _
    | false =>
      cases kind with
      | method => exact parseModifier_name "async" hname input
      | getter => exact parseModifier_of_ne "async" "get" (by decide) (by decide) _
  have hget : parseModifier "get" ((if kind = .getter then "get " else "").toList
        ++ (name.text.toList ++ '(' :: input))
      = (decide (kind = .getter), name.text.toList ++ '(' :: input) := by
    cases kind with
    | method => exact parseModifier_name "get" hname input
    | getter => exact parseModifier_self "get" (by decide) _
  have hword : parseName (name.text.toList ++ '(' :: input) = some (name, '(' :: input) :=
    parseName_append hname rfl
  have hopen : after? ['('] ('(' :: input) = some input := after?_append ['('] input
  refine reads_iff.mpr ?_
  filter_upwards [hparams, hbody] with depth hparams hbody
  show parseMember (readWithin depth) _ = _
  rw [parseMember, hasync]
  simp only [hget, hword, hopen, hparams, after?_append, hbody, Option.bind_eq_bind,
    Option.bind_some, Option.pure_def]
  cases kind <;> rfl

/-! ## Statements and members, line by line -/

/-- Whether a statement may begin with a text. -/
def startsLine : List Char → Bool
  | [] => false
  | c :: _ => c != ' ' && c != '\x7d'

theorem startsLine_of_opensExpr {input : List Char} (h : opensExpr input = true) :
    startsLine input = true := by
  cases input with
  | nil => cases h
  | cons c input =>
    rw [startsLine, Bool.and_eq_true, bne_iff_ne, bne_iff_ne]
    constructor
    · rintro rfl
      cases h
    · rintro rfl
      cases h

/-- **A statement in front of others**, at whatever depth. -/
theorem reads_stmts_line (depth : Nat) {line middle rest : List Char} {stmt : Stmt}
    {stmts : List Stmt} (hline : startsLine line = true) (h : Reads .stmt line (stmt, middle))
    (hrest : Reads .stmts middle (stmts, rest)) :
    Reads .stmts (indent depth ++ line) (stmt :: stmts, rest) := by
  cases line with
  | nil => cases hline
  | cons c line =>
    rw [startsLine, Bool.and_eq_true, bne_iff_ne, bne_iff_ne] at hline
    have hskip : skipBlanks (indent depth ++ c :: line) = c :: line := by
      rw [skipBlanks_indent, skipBlanks, List.dropWhile_cons, if_neg (by simpa using hline.1)]
    refine reads_iff.mpr ?_
    filter_upwards [h, hrest] with within h hrest
    show parseStmts (readWithin within) _ = _
    rw [parseStmts, hskip]
    split
    · next hnil => cases hnil
    · next hbrace =>
      cases hbrace
      exact absurd rfl hline.2
    · simp only [h, hrest, Option.bind_eq_bind, Option.bind_some, Option.pure_def]

/-- The statements of a block end at its brace. -/
theorem reads_stmts_close (depth : Nat) (rest : List Char) :
    Reads .stmts (indent depth ++ '\x7d' :: rest) ([], '\x7d' :: rest) := by
  have hskip : skipBlanks (indent depth ++ '\x7d' :: rest) = '\x7d' :: rest := skipBlanks_indent _ _
  refine reads_iff.mpr (.of_forall fun within => ?_)
  show parseStmts (readWithin within) _ = _
  rw [parseStmts, hskip]
  rfl

theorem reads_stmts_nil : Reads .stmts [] ([], []) :=
  reads_iff.mpr (.of_forall fun _ => rfl)

theorem reads_stmt_expr {input rest : List Char} {e : Expr} (hopens : opensExpr input = true)
    (he : Reads .expr input (e, ";\n".toList ++ rest)) : Reads .stmt input (.expr e, rest) := by
  have hvalue : Reads .value (";\n".toList ++ rest) (none, ";\n".toList ++ rest) :=
    reads_value_none rfl
  have hstmt : stmtOf? e none = some (.expr e) := by cases e <;> rfl
  refine reads_iff.mpr ?_
  filter_upwards [he, hvalue] with depth he hvalue
  show parseStmt (readWithin depth) input = _
  rw [parseStmt.eq_def, if_pos hopens]
  simp only [he, hvalue, hstmt, after?_append, Option.bind_eq_bind, Option.bind_some,
    Option.pure_def]

theorem reads_stmt_assign {input middle rest : List Char} {object value : Expr}
    {property : Identifier} (hopens : opensExpr input = true)
    (he : Reads .expr input (.member object property, " = ".toList ++ middle))
    (hvalue : Reads .expr middle (value, ";\n".toList ++ rest)) :
    Reads .stmt input (.assign object property value, rest) := by
  refine reads_iff.mpr ?_
  filter_upwards [he, reads_value_equals hvalue] with depth he hvalue
  show parseStmt (readWithin depth) input = _
  rw [parseStmt.eq_def, if_pos hopens]
  simp only [he, hvalue, stmtOf?, after?_append, Option.bind_eq_bind, Option.bind_some,
    Option.pure_def]

/-- A statement that begins with a word of its own. -/
theorem reads_stmt_word (word : String) (h : word ∈ stmtWords) {rest : List Char}
    (hrest : endsWord rest = true) {result : Stmt × List Char}
    (hresult : Reads (.wordStmt word) rest result) : Reads .stmt (word.toList ++ rest) result := by
  have hall : ∀ word ∈ stmtWords, isWord word.toList = true := by decide
  have hword := hall word h
  have hopens : opensExpr (word.toList ++ rest) = false := by
    rw [opensExpr_word hword hrest, String.ofList_toList, List.contains_iff_mem.mpr h]
    rfl
  have hname := parseName_word hword hrest
  refine reads_iff.mpr ?_
  filter_upwards [hresult] with depth hresult
  show parseStmt (readWithin depth) (word.toList ++ rest) = _
  rw [parseStmt.eq_def, hopens, if_neg Bool.false_ne_true]
  simp only [stmtWords, List.mem_cons, List.not_mem_nil, or_false] at h
  -- none of the words begins like an empty line or a comment
  rcases h with rfl | rfl | rfl
  all_goals
  · show (parseName _ >>= _) = _
    rw [hname]
    exact hresult

theorem reads_const {input middle rest : List Char} {pattern : Pattern} {value : Expr}
    (hpattern : Reads .pattern input (pattern, " = ".toList ++ middle))
    (hvalue : Reads .expr middle (value, ";\n".toList ++ rest)) :
    Reads (.wordStmt "const") (' ' :: input) (.const pattern value, rest) := by
  refine reads_iff.mpr ?_
  filter_upwards [hpattern, reads_value_equals hvalue] with depth hpattern hvalue
  show parseWordStmt (readWithin depth) "const" (' ' :: input) = _
  rw [parseWordStmt, if_pos rfl]
  simp only [List.tail_cons, hpattern, hvalue, after?_append, Option.bind_eq_bind,
    Option.bind_some, Option.pure_def]

theorem reads_return (rest : List Char) :
    Reads (.wordStmt "return") (";\n".toList ++ rest) (.ret none, rest) := by
  refine reads_iff.mpr (.of_forall fun depth => ?_)
  show parseWordStmt (readWithin depth) "return" (";\n".toList ++ rest) = _
  rw [parseWordStmt, if_neg (by decide), if_pos rfl, after?_append]

theorem reads_return_value {input rest : List Char} {value : Expr}
    (hvalue : Reads .expr input (value, ";\n".toList ++ rest)) :
    Reads (.wordStmt "return") (' ' :: input) (.ret (some value), rest) := by
  have hblank : after? ";\n".toList (' ' :: input) = none := after?_of_ne (by decide) _ _
  refine reads_iff.mpr ?_
  filter_upwards [hvalue] with depth hvalue
  show parseWordStmt (readWithin depth) "return" (' ' :: input) = _
  rw [parseWordStmt, if_neg (by decide), if_pos rfl, hblank]
  simp only [List.tail_cons, hvalue, after?_append, Option.bind_eq_bind, Option.bind_some,
    Option.pure_def]

/-- A class, when its members are read back. -/
theorem reads_class {input middle rest : List Char} {name : Identifier}
    {parent : Option Identifier} {members : List Member}
    (hhead : parseHead input = some ((name, parent), " \x7b\n".toList ++ middle))
    (hmembers : Reads .members middle (members, "\x7d\n".toList ++ rest)) :
    Reads (.wordStmt "class") (' ' :: input)
      (.classDecl (classWith name parent members), rest) := by
  refine reads_iff.mpr ?_
  filter_upwards [hmembers] with depth hmembers
  show parseWordStmt (readWithin depth) "class" (' ' :: input) = _
  rw [parseWordStmt, if_neg (by decide), if_neg (by decide)]
  simp only [List.tail_cons, hhead, hmembers, after?_append, Option.bind_eq_bind,
    Option.bind_some, Option.pure_def]

theorem reads_blank (rest : List Char) : Reads .stmt ('\n' :: rest) (.blank, rest) :=
  reads_iff.mpr (.of_forall fun _ => rfl)

/-- **A comment of one line is read back.** -/
theorem reads_comment {text : String} (h : ∀ c ∈ text.toList, isLineEnd c = false)
    (rest : List Char) :
    Reads .stmt ("// ".toList ++ (text.toList ++ '\n' :: rest)) (.comment text, rest) := by
  have hfeed : ∀ c ∈ text.toList, decide (c ≠ '\n') = true := fun c hc =>
    decide_eq_true (isLineEnd_eq_false_iff.mp (h c hc)).1
  refine reads_iff.mpr (.of_forall fun depth => ?_)
  show some (parseComment (text.toList ++ '\n' :: rest)) = _
  rw [parseComment, List.takeWhile_append_of_pos hfeed, List.dropWhile_append_of_pos hfeed]
  show some (Stmt.comment (String.ofList (text.toList ++ [])), rest) = _
  rw [List.append_nil, String.ofList_toList]

theorem parseHead_writeHead {name : Identifier} {parent : Option Identifier}
    (h : ∀ leaf ∈ headLeaves name parent, leaf.IsReadable) (rest : List Char) :
    ∃ input, writeHead name parent ++ rest = "class".toList ++ ' ' :: input
      ∧ parseHead input = some ((name, parent), " \x7b\n".toList ++ rest) := by
  obtain ⟨hname, hparent⟩ := List.forall_mem_cons.mp h
  have hname : name.isValid = true := hname
  have hclass : "class ".toList = "class".toList ++ [' '] := by decide
  cases parent with
  | none =>
    have hread : parseName (name.text.toList ++ (" \x7b\n".toList ++ rest)) = _ :=
      parseName_append hname rfl
    have hnone : after? " extends ".toList (" \x7b\n".toList ++ rest) = none := rfl
    refine ⟨name.text.toList ++ (" \x7b\n".toList ++ rest), ?_, ?_⟩
    · unfold writeHead
      simp only [hclass, List.append_assoc, List.cons_append, List.nil_append]
    · rw [parseHead, hread]
      simp only [hnone, Option.bind_eq_bind, Option.bind_some, Option.pure_def]
  | some parent =>
    have hparent : parent.isValid = true := hparent _ List.mem_cons_self
    have hread : parseName (name.text.toList ++ (" extends ".toList
        ++ (parent.text.toList ++ (" \x7b\n".toList ++ rest)))) = _ := parseName_append hname rfl
    have hsecond : parseName (parent.text.toList ++ (" \x7b\n".toList ++ rest)) = _ :=
      parseName_append hparent rfl
    refine ⟨name.text.toList ++ (" extends ".toList
      ++ (parent.text.toList ++ (" \x7b\n".toList ++ rest))), ?_, ?_⟩
    · unfold writeHead
      simp only [hclass, List.append_assoc, List.cons_append, List.nil_append]
    · rw [parseHead, hread]
      simp only [after?_append, hsecond, Option.bind_eq_bind, Option.bind_some, Option.map_some]

/-- The blanks in front of a member are passed over. -/
theorem dropWhile_indent (depth : Nat) (line : List Char) :
    (indent depth ++ line).dropWhile (fun c => decide (c = ' ' ∨ c = '\n'))
      = line.dropWhile (fun c => decide (c = ' ' ∨ c = '\n')) := by
  refine List.dropWhile_append_of_pos fun c hc => ?_
  rw [List.eq_of_mem_replicate hc]
  rfl

/-- **A member in front of others**, at whatever depth. -/
theorem reads_members_line (depth : Nat) {line middle rest : List Char} {member : Member}
    {members : List Member} (hline : line.head?.any Identifier.isNameChar = true)
    (h : Reads .member line (member, middle)) (hrest : Reads .members middle (members, rest)) :
    Reads .members (indent depth ++ line) (member :: members, rest) := by
  cases line with
  | nil => cases hline
  | cons c line =>
    have hc : Identifier.isNameChar c = true := by simpa using hline
    have hskip : (indent depth ++ c :: line).dropWhile (fun c => decide (c = ' ' ∨ c = '\n'))
        = c :: line := by
      rw [dropWhile_indent, List.dropWhile_cons, if_neg]
      simp [ne_of_isNameChar hc (d := ' ') rfl, ne_of_isNameChar hc (d := '\n') rfl]
    refine reads_iff.mpr ?_
    filter_upwards [h, hrest] with within h hrest
    show parseMembers (readWithin within) _ = _
    rw [parseMembers, hskip]
    split
    · next hbrace =>
      cases hbrace
      cases hc
    · simp only [h, hrest, Option.bind_eq_bind, Option.bind_some, Option.pure_def]

/-- The members of a class end at its brace. -/
theorem reads_members_close (depth : Nat) (rest : List Char) :
    Reads .members (indent depth ++ '\x7d' :: rest) ([], '\x7d' :: rest) := by
  refine reads_iff.mpr (.of_forall fun within => ?_)
  show parseMembers (readWithin within) _ = _
  rw [parseMembers, dropWhile_indent]
  rfl

/-- An empty line between members is passed over. -/
theorem reads_members_feed {input : List Char} {result : List Member × List Char}
    (h : Reads .members input result) : Reads .members ('\n' :: input) result := by
  have hfeed : ∀ read, parseMembers read ('\n' :: input) = parseMembers read input := by
    intro read
    rw [parseMembers, parseMembers, List.dropWhile_cons, if_pos (by decide)]
  refine reads_iff.mpr ?_
  filter_upwards [reads_iff.mp h] with depth h
  exact (hfeed _).trans h

/-- **A member in front of others is followed by them**, or by an empty line
and them. -/
theorem exists_intercalate_append (part : List Char) (parts : List (List Char))
    (rest : List Char) :
    ∃ tail, ['\n'].intercalate (part :: parts) ++ rest = part ++ tail
      ∧ ∀ {result}, Reads .members (['\n'].intercalate parts ++ rest) result →
        Reads .members tail result := by
  cases parts with
  | nil => exact ⟨rest, by rw [List.intercalate_singleton], id⟩
  | cons next parts =>
    refine ⟨'\n' :: (['\n'].intercalate (next :: parts) ++ rest), ?_, reads_members_feed⟩
    rw [List.intercalate_cons_cons, List.append_assoc, List.append_assoc]
    rfl

/-- A member begins with a character of a name. -/
theorem head?_writeMember {name : Identifier} (h : name.isValid = true) (isAsync : Bool)
    (kind : MemberKind) (rest : List Char) :
    ((if isAsync then "async " else "").toList ++ ((if kind = .getter then "get " else "").toList
      ++ (name.text.toList ++ rest))).head?.any Identifier.isNameChar = true := by
  obtain ⟨c, cs, htext, hc⟩ := exists_toList_eq_cons h
  cases isAsync with
  | true => rfl
  | false =>
    cases kind with
    | getter => rfl
    | method =>
      rw [htext]
      exact hc

/-- A constructor, read as a method, is found again. -/
theorem classWith_toMember (name : Identifier) (parent : Option Identifier) (maker : Maker)
    (members : List Member) :
    classWith name parent (maker.toMember :: members) = ⟨name, parent, some maker, members⟩ := by
  cases maker
  rfl

/-- Where no member is called like a constructor, none is taken for one. -/
theorem classWith_of_readable (name : Identifier) (parent : Option Identifier)
    {members : List Member} (h : ∀ leaf ∈ leavesOfMembers members, leaf.IsReadable) :
    classWith name parent members = ⟨name, parent, none, members⟩ := by
  cases members with
  | nil => rfl
  | cons member members =>
    obtain ⟨memberName, kind, isAsync, params, body⟩ := member
    have hname : (Leaf.memberName memberName).IsReadable := h _ List.mem_cons_self
    exact if_neg hname.2

/-- **A class in front of other statements**, when what is written between
its braces is read back. -/
theorem reads_class_line (depth : Nat) {name : Identifier} {parent : Option Identifier}
    (hhead : ∀ leaf ∈ headLeaves name parent, leaf.IsReadable) {written rest left : List Char}
    {members : List Member} {stmts : List Stmt}
    (hmembers : Reads .members (written ++ (indent depth ++ '\x7d' :: '\n' :: rest))
      (members, "\x7d\n".toList ++ rest))
    (hrest : Reads .stmts rest (stmts, left)) :
    Reads .stmts (indent depth ++ (writeHead name parent ++ written ++ indent depth ++ ['\x7d']
      ++ (['\n'] ++ rest))) (.classDecl (classWith name parent members) :: stmts, left) := by
  obtain ⟨input, hinput, hparse⟩ :=
    parseHead_writeHead hhead (written ++ (indent depth ++ '\x7d' :: '\n' :: rest))
  simp only [List.append_assoc, List.cons_append, List.nil_append]
  rw [hinput]
  exact reads_stmts_line depth rfl
    (reads_stmt_word "class" (by decide) rfl (reads_class hparse hmembers)) hrest

/-! ## Trees -/

mutual

/-- **An expression is read back.** -/
theorem readsBack_writeExpr (depth : Nat) : (e : Expr) → (∀ leaf ∈ e.leaves, leaf.IsReadable) →
    ReadsBack e (writeExpr depth e)
  | .null, _ => readsBack_exprWord "null" (by decide)
  | .bool true, _ => readsBack_exprWord "true" (by decide)
  | .bool false, _ => readsBack_exprWord "false" (by decide)
  | .num _, h => absurd (h _ List.mem_cons_self) id
  | .str text, _ => by
    refine readsBack_of_primary fun {rest} _ => ?_
    show Reads .primary ('"' :: (escape text.toList ++ ['"']) ++ rest) _
    rw [List.cons_append, List.append_assoc]
    exact reads_primary_text text rest
  | .regex body, h => by
    obtain ⟨text, rfl⟩ := h _ List.mem_cons_self
    exact readsBack_of_primary fun {rest} _ => reads_primary_regex text rest
  | .ident name, h => readsBack_name (h _ List.mem_cons_self)
  | .this, _ => readsBack_exprWord "this" (by decide)
  | .super, _ => readsBack_exprWord "super" (by decide)
  | .member object property, h => by
    obtain ⟨hobject, hproperty⟩ := List.forall_mem_append.mp h
    have hproperty : property.isValid = true := hproperty _ List.mem_cons_self
    refine readsBack_of_goesOn fun {rest result} hrest hresult => ?_
    show Reads .expr (enclose object (writeExpr depth object) ++ '.' :: property.text.toList
      ++ rest) result
    rw [List.append_assoc]
    exact (readsBack_writeExpr depth object hobject).enclosed rfl
      (reads_suffixes_member object hproperty (endsWord_of_endsName hrest) hresult)
  | .call callee args, h => by
    obtain ⟨hcallee, hargs⟩ := List.forall_mem_append.mp h
    refine readsBack_of_goesOn fun {rest result} hrest hresult => ?_
    show Reads .expr (enclose callee (writeExpr depth callee)
      ++ '(' :: (separated (writeExprs depth args) ++ [')']) ++ rest) result
    rw [List.append_assoc, List.cons_append, List.append_assoc]
    exact (readsBack_writeExpr depth callee hcallee).enclosed rfl
      (reads_suffixes_call callee (reads_writeExprs depth args hargs (Or.inl rfl) rest) hresult)
  | .construct maker args, h => by
    obtain ⟨hmaker, hargs⟩ := List.forall_mem_append.mp h
    refine readsBack_of_loose rfl fun {rest} hrest => ?_
    have hnew : "new ".toList = "new".toList ++ [' '] := by decide
    have hcall : Reads .expr (enclose maker (writeExpr depth maker)
        ++ '(' :: (separated (writeExprs depth args) ++ ')' :: rest)) (.call maker args, rest) :=
      (readsBack_writeExpr depth maker hmaker).enclosed rfl
        (reads_suffixes_call maker (reads_writeExprs depth args hargs (Or.inl rfl) rest)
          (reads_suffixes_of_ends _ hrest))
    show Reads .primary ("new ".toList ++ enclose maker (writeExpr depth maker)
      ++ '(' :: (separated (writeExprs depth args) ++ [')']) ++ rest) _
    simp only [hnew, List.append_assoc, List.cons_append, List.nil_append]
    exact reads_primary_word (by decide) rfl (reads_named_new hcall)
  | .await promise, h => by
    refine readsBack_of_loose rfl fun {rest} hrest => ?_
    have hawait : "await ".toList = "await".toList ++ [' '] := by decide
    have hpromise := (readsBack_writeExpr depth promise h).ends hrest
    show Reads .primary ("await ".toList ++ writeExpr depth promise ++ rest) _
    simp only [hawait, List.append_assoc, List.cons_append, List.nil_append]
    exact reads_primary_word (by decide) rfl (reads_named_await hpromise)
  | .object [], _ => readsBack_of_loose rfl fun {rest} _ => reads_primary_braces rest
  | .object (entry :: entries), h => by
    refine readsBack_of_loose rfl fun {rest} _ => ?_
    show Reads .primary ("\x7b ".toList ++ separated (writeEntries depth (entry :: entries))
      ++ " \x7d".toList ++ rest) _
    rw [List.append_assoc, List.append_assoc]
    exact reads_primary_object (reads_writeEntries depth (entry :: entries) h rest)
  | .array items, h => by
    refine readsBack_of_primary fun {rest} _ => ?_
    show Reads .primary ('[' :: (separated (writeExprs depth items) ++ [']']) ++ rest) _
    rw [List.cons_append, List.append_assoc]
    exact reads_primary_array (reads_writeExprs depth items h (Or.inr rfl) rest)
  | .arrow isAsync params body, h => by
    obtain ⟨hparams, hbody⟩ := List.forall_mem_append.mp h
    refine readsBack_of_loose rfl fun {rest} _ => ?_
    have harrow : ∀ isAsync, Reads (.arrow isAsync) (separated (writeParams depth params)
        ++ ')' :: (" => \x7b\n".toList
          ++ (writeStmts (depth + 1) body ++ (indent depth ++ '\x7d' :: rest)))) _ :=
      fun isAsync => reads_arrow isAsync (reads_writeParams depth params hparams _)
        (reads_writeStmts (depth + 1) body hbody (reads_stmts_close depth rest))
    have hmark : ∀ input, ") => ".toList ++ ("\x7b\n".toList ++ input)
        = ')' :: (" => \x7b\n".toList ++ input) := fun _ => rfl
    show Reads .primary ((if isAsync then "async " else "").toList
      ++ '(' :: (separated (writeParams depth params) ++ ") => ".toList)
      ++ "\x7b\n".toList ++ writeStmts (depth + 1) body ++ indent depth ++ ['\x7d'] ++ rest) _
    simp only [List.append_assoc, List.cons_append, List.nil_append, hmark]
    cases isAsync with
    | false => exact reads_primary_arrow (opensParams_writeParams depth hparams _) (harrow false)
    | true =>
      show Reads .primary ("async".toList ++ (" (".toList ++ _)) _
      exact reads_primary_word (by decide) rfl (reads_named_async (harrow true))

/-- Expressions between commas, up to a bracket. -/
theorem reads_writeExprs (depth : Nat) : (es : List Expr) →
    (∀ leaf ∈ leavesOfExprs es, leaf.IsReadable) → {close : Char} →
    (close = ')' ∨ close = ']') → (rest : List Char) →
    Reads (.exprs close) (separated (writeExprs depth es) ++ close :: rest) (es, rest)
  | [], _, close, _, rest => reads_exprs_close close rest
  | e :: es, h, close, hclose, rest => by
    obtain ⟨he, hes⟩ := List.forall_mem_append.mp h
    have hends : endsPart (close :: rest) = true := by rcases hclose with rfl | rfl <;> rfl
    have hcomma : afterComma (close :: rest) = close :: rest := by
      rcases hclose with rfl | rfl <;> rfl
    obtain ⟨tail, htail, htailEnds, hafter⟩ :=
      exists_separated_append (writeExpr depth e) (writeExprs depth es) hends hcomma
    have htailEnds := endsExpr_of_endsPart htailEnds
    have hopens := opensExpr_writeExpr depth e he
      (endsWord_of_endsName (endsName_of_endsExpr htailEnds))
    show Reads (.exprs close) (separated (writeExpr depth e :: writeExprs depth es)
      ++ close :: rest) _
    rw [htail]
    refine reads_exprs_cons (after?_of_opensExpr hopens hclose)
      ((readsBack_writeExpr depth e he).ends htailEnds) ?_
    rw [hafter]
    exact reads_writeExprs depth es hes hclose rest

/-- Entries between commas, up to a brace. -/
theorem reads_writeEntries (depth : Nat) : (entries : List Entry) →
    (∀ leaf ∈ leavesOfEntries entries, leaf.IsReadable) → (rest : List Char) →
    Reads .entries (separated (writeEntries depth entries) ++ (" \x7d".toList ++ rest))
      (entries, rest)
  | [], _, rest => reads_entries_close rest
  | ⟨key, value⟩ :: entries, h, rest => by
    obtain ⟨hentry, hentries⟩ := List.forall_mem_append.mp h
    have hvalue := (List.forall_mem_cons.mp hentry).2
    have hbrace : endsPart (" \x7d".toList ++ rest) = true := rfl
    obtain ⟨tail, htail, htailEnds, hafter⟩ := exists_separated_append
      (writeEntry depth ⟨key, value⟩) (writeEntries depth entries) hbrace rfl
    obtain ⟨c, cs, hkey, hc⟩ := exists_writeKey_eq_cons key
    have hclose : after? " \x7d".toList (writeKey key ++ (": ".toList ++ (writeExpr depth value
        ++ tail))) = none := by
      rw [hkey]
      refine after?_of_ne ?_ _ _
      rcases hc with rfl | hc
      · decide
      · exact (ne_of_isNameChar hc rfl).symm
    show Reads .entries (separated (writeEntry depth ⟨key, value⟩ :: writeEntries depth entries)
      ++ (" \x7d".toList ++ rest)) _
    rw [htail]
    show Reads .entries (writeKey key ++ ": ".toList ++ writeExpr depth value ++ tail) _
    rw [List.append_assoc, List.append_assoc]
    refine reads_entries_cons hclose (parseKey_writeKey key rfl)
      ((readsBack_writeExpr depth value hvalue).ends (endsExpr_of_endsPart htailEnds)) ?_
    rw [hafter]
    exact reads_writeEntries depth entries hentries rest

/-- A parameter: its pattern, and the value behind it. -/
theorem reads_writeParam (depth : Nat) : (param : Param) →
    (∀ leaf ∈ param.leaves, leaf.IsReadable) → {rest : List Char} → endsPart rest = true →
    ∃ middle, Reads .pattern (writeParam depth param ++ rest) (param.pattern, middle)
      ∧ Reads .value middle (param.fallback, rest)
      ∧ after? [')'] (writeParam depth param ++ rest) = none
  | ⟨_, none⟩, h, rest, hrest =>
    ⟨rest, reads_writePattern h (endsWord_of_endsPart hrest),
      reads_value_none (after?_of_endsPart hrest), after?_writePattern h rest⟩
  | ⟨pattern, some value⟩, h, rest, hrest => by
    obtain ⟨hpattern, hvalue⟩ := List.forall_mem_append.mp h
    refine ⟨" = ".toList ++ (writeExpr depth value ++ rest), ?_, ?_, ?_⟩
    · show Reads .pattern (writePattern pattern ++ " = ".toList ++ writeExpr depth value ++ rest) _
      rw [List.append_assoc, List.append_assoc]
      exact reads_writePattern hpattern rfl
    · exact reads_value_equals
        ((readsBack_writeExpr depth value hvalue).ends (endsExpr_of_endsPart hrest))
    · show after? [')'] (writePattern pattern ++ " = ".toList ++ writeExpr depth value ++ rest) = _
      rw [List.append_assoc, List.append_assoc]
      exact after?_writePattern hpattern _

/-- Parameters between commas, up to a parenthesis. -/
theorem reads_writeParams (depth : Nat) : (params : List Param) →
    (∀ leaf ∈ leavesOfParams params, leaf.IsReadable) → (rest : List Char) →
    Reads .params (separated (writeParams depth params) ++ ')' :: rest) (params, rest)
  | [], _, rest => reads_params_close rest
  | param :: params, h, rest => by
    obtain ⟨hparam, hparams⟩ := List.forall_mem_append.mp h
    have hclose : endsPart (')' :: rest) = true := rfl
    obtain ⟨tail, htail, htailEnds, hafter⟩ :=
      exists_separated_append (writeParam depth param) (writeParams depth params) hclose rfl
    obtain ⟨middle, hpattern, hvalue, hnone⟩ := reads_writeParam depth param hparam htailEnds
    show Reads .params (separated (writeParam depth param :: writeParams depth params)
      ++ ')' :: rest) _
    rw [htail]
    refine reads_params_cons hnone hpattern hvalue ?_
    rw [hafter]
    exact reads_writeParams depth params hparams rest

/-- **A statement is read back**, in front of others. -/
theorem reads_writeStmt (depth : Nat) : (stmt : Stmt) →
    (∀ leaf ∈ stmt.leaves, leaf.IsReadable) → {rest left : List Char} → {stmts : List Stmt} →
    Reads .stmts rest (stmts, left) →
    Reads .stmts (writeStmt depth stmt ++ rest) (stmt :: stmts, left)
  | .const pattern value, h, rest, left, stmts, hrest => by
    obtain ⟨hpattern, hvalue⟩ := List.forall_mem_append.mp h
    have hconst : "const ".toList = "const".toList ++ [' '] := by decide
    show Reads .stmts (indent depth ++ "const ".toList ++ writePattern pattern ++ " = ".toList
      ++ writeExpr depth value ++ ";\n".toList ++ rest) _
    simp only [hconst, List.append_assoc, List.cons_append, List.nil_append]
    refine reads_stmts_line depth rfl (reads_stmt_word "const" (by decide) rfl ?_) hrest
    exact reads_const (reads_writePattern hpattern rfl)
      ((readsBack_writeExpr depth value hvalue).ends rfl)
  | .assign object property value, h, rest, left, stmts, hrest => by
    obtain ⟨hobject, hothers⟩ := List.forall_mem_append.mp h
    obtain ⟨hproperty, hvalue⟩ := List.forall_mem_cons.mp hothers
    have hproperty : property.isValid = true := hproperty
    have hopens : ∀ input, opensExpr (enclose object (writeExpr depth object) ++ '.' :: input)
        = true := fun _ => opensExpr_enclose object (opensExpr_writeExpr depth object hobject) rfl
    show Reads .stmts (indent depth ++ enclose object (writeExpr depth object)
      ++ '.' :: property.text.toList ++ " = ".toList ++ writeExpr depth value ++ ";\n".toList
      ++ rest) _
    simp only [List.append_assoc, List.cons_append]
    refine reads_stmts_line depth (startsLine_of_opensExpr (hopens _)) ?_ hrest
    refine reads_stmt_assign (hopens _) ?_ ((readsBack_writeExpr depth value hvalue).ends rfl)
    exact (readsBack_writeExpr depth object hobject).enclosed rfl
      (reads_suffixes_member object hproperty rfl (reads_suffixes_of_ends _ rfl))
  | .expr value, h, rest, left, stmts, hrest => by
    have hopens : opensExpr (writeExpr depth value ++ (";\n".toList ++ rest)) = true :=
      opensExpr_writeExpr depth value h rfl
    show Reads .stmts (indent depth ++ writeExpr depth value ++ ";\n".toList ++ rest) _
    rw [List.append_assoc, List.append_assoc]
    exact reads_stmts_line depth (startsLine_of_opensExpr hopens)
      (reads_stmt_expr hopens ((readsBack_writeExpr depth value h).ends rfl)) hrest
  | .ret none, _, rest, left, stmts, hrest => by
    have hreturn : "return;\n".toList = "return".toList ++ ";\n".toList := by decide
    show Reads .stmts (indent depth ++ "return;\n".toList ++ rest) _
    rw [hreturn, List.append_assoc, List.append_assoc]
    exact reads_stmts_line depth rfl (reads_stmt_word "return" (by decide) rfl (reads_return rest))
      hrest
  | .ret (some value), h, rest, left, stmts, hrest => by
    have hreturn : "return ".toList = "return".toList ++ [' '] := by decide
    show Reads .stmts (indent depth ++ "return ".toList ++ writeExpr depth value ++ ";\n".toList
      ++ rest) _
    simp only [hreturn, List.append_assoc, List.cons_append, List.nil_append]
    refine reads_stmts_line depth rfl (reads_stmt_word "return" (by decide) rfl ?_) hrest
    exact reads_return_value ((readsBack_writeExpr depth value h).ends rfl)
  | .comment text, h, rest, left, stmts, hrest => by
    have hline : ∀ c ∈ text.toList, isLineEnd c = false := h _ List.mem_cons_self
    show Reads .stmts (indent depth ++ writeComment depth text ++ ['\n'] ++ rest) _
    rw [writeComment_of_forall depth hline]
    simp only [List.append_assoc, List.cons_append, List.nil_append]
    exact reads_stmts_line depth rfl (reads_comment hline rest) hrest
  | .blank, _, rest, left, stmts, hrest => reads_stmts_line 0 rfl (reads_blank rest) hrest
  | .classDecl decl, h, rest, left, stmts, hrest => by
    show Reads .stmts (indent depth ++ writeClass depth decl ++ ['\n'] ++ rest) _
    rw [List.append_assoc, List.append_assoc]
    exact reads_writeClass depth decl h hrest

/-- **Statements are read back**, up to where no statement follows. -/
theorem reads_writeStmts (depth : Nat) : (stmts : List Stmt) →
    (∀ leaf ∈ leavesOfStmts stmts, leaf.IsReadable) → {rest left : List Char} →
    Reads .stmts rest ([], left) → Reads .stmts (writeStmts depth stmts ++ rest) (stmts, left)
  | [], _, _, _, hrest => hrest
  | stmt :: stmts, h, rest, left, hrest => by
    obtain ⟨hstmt, hstmts⟩ := List.forall_mem_append.mp h
    show Reads .stmts (writeStmt depth stmt ++ writeStmts depth stmts ++ rest) _
    rw [List.append_assoc]
    exact reads_writeStmt depth stmt hstmt (reads_writeStmts depth stmts hstmts hrest)

/-- **A class is read back**, in front of other statements. -/
theorem reads_writeClass (depth : Nat) : (decl : ClassDecl) →
    (∀ leaf ∈ decl.leaves, leaf.IsReadable) → {rest left : List Char} → {stmts : List Stmt} →
    Reads .stmts rest (stmts, left) →
    Reads .stmts (indent depth ++ (writeClass depth decl ++ (['\n'] ++ rest)))
      (.classDecl decl :: stmts, left)
  | ⟨name, parent, none, members⟩, h, rest, left, stmts, hrest => by
    obtain ⟨hhead, hmembers⟩ := List.forall_mem_append.mp h
    have hclass := reads_class_line depth hhead (reads_writeMembers (depth + 1) members hmembers
      (reads_members_close depth ('\n' :: rest))) hrest
    rw [classWith_of_readable name parent hmembers] at hclass
    exact hclass
  | ⟨name, parent, some maker, members⟩, h, rest, left, stmts, hrest => by
    obtain ⟨hhead, hothers⟩ := List.forall_mem_append.mp h
    obtain ⟨hmaker, hmembers⟩ := List.forall_mem_append.mp hothers
    obtain ⟨tail, htail, hafter⟩ := exists_intercalate_append (writeMaker (depth + 1) maker)
      (writeMembers (depth + 1) members) (indent depth ++ '\x7d' :: '\n' :: rest)
    have hread := reads_writeMaker (depth + 1) maker hmaker (hafter (reads_writeMembers (depth + 1)
      members hmembers (reads_members_close depth ('\n' :: rest))))
    rw [← htail] at hread
    have hclass := reads_class_line depth hhead hread hrest
    rw [classWith_toMember] at hclass
    exact hclass

/-- A constructor is read back as a method, in front of members. -/
theorem reads_writeMaker (depth : Nat) : (maker : Maker) →
    (∀ leaf ∈ maker.leaves, leaf.IsReadable) → {rest left : List Char} → {members : List Member} →
    Reads .members rest (members, left) →
    Reads .members (writeMaker depth maker ++ rest) (maker.toMember :: members, left)
  | ⟨params, body⟩, h, rest, left, members, hrest => by
    obtain ⟨hparams, hbody⟩ := List.forall_mem_append.mp h
    have hname : (Identifier.mk "constructor").isValid = true := by decide
    have hread := reads_member hname .method false
      (reads_writeParams depth params hparams _)
      (reads_writeStmts (depth + 1) body hbody (reads_stmts_close depth ('\n' :: rest)))
    have hopen : "constructor(".toList = "constructor".toList ++ ['('] := by decide
    have hclose : ") \x7b\n".toList = [')'] ++ " \x7b\n".toList := by decide
    have hend : "\x7d\n".toList = ['\x7d', '\n'] := by decide
    show Reads .members (indent depth ++ "constructor(".toList
      ++ separated (writeParams depth params) ++ ") \x7b\n".toList ++ writeStmts (depth + 1) body
      ++ indent depth ++ "\x7d\n".toList ++ rest) _
    simp only [hopen, hclose, hend, List.append_assoc, List.cons_append, List.nil_append]
    exact reads_members_line depth rfl hread hrest

/-- **A member of a class is read back**, in front of others. -/
theorem reads_writeMember (depth : Nat) : (member : Member) →
    (∀ leaf ∈ member.leaves, leaf.IsReadable) → {rest left : List Char} →
    {members : List Member} → Reads .members rest (members, left) →
    Reads .members (writeMember depth member ++ rest) (member :: members, left)
  | ⟨name, kind, isAsync, params, body⟩, h, rest, left, members, hrest => by
    obtain ⟨hname, hothers⟩ := List.forall_mem_cons.mp h
    obtain ⟨hparams, hbody⟩ := List.forall_mem_append.mp hothers
    have hread := reads_member hname.1 kind isAsync
      (reads_writeParams depth params hparams _)
      (reads_writeStmts (depth + 1) body hbody (reads_stmts_close depth ('\n' :: rest)))
    have hclose : ") \x7b\n".toList = [')'] ++ " \x7b\n".toList := by decide
    have hend : "\x7d\n".toList = ['\x7d', '\n'] := by decide
    show Reads .members (indent depth ++ (if isAsync then "async " else "").toList
      ++ (if kind = .getter then "get " else "").toList
      ++ name.text.toList ++ '(' :: (separated (writeParams depth params) ++ ") \x7b\n".toList)
      ++ writeStmts (depth + 1) body ++ indent depth ++ "\x7d\n".toList ++ rest) _
    simp only [hclose, hend, List.append_assoc, List.cons_append, List.nil_append]
    exact reads_members_line depth (head?_writeMember hname.1 _ _ _) hread hrest

/-- Members with empty lines between them, up to where none follows. -/
theorem reads_writeMembers (depth : Nat) : (members : List Member) →
    (∀ leaf ∈ leavesOfMembers members, leaf.IsReadable) → {rest left : List Char} →
    Reads .members rest ([], left) →
    Reads .members (['\n'].intercalate (writeMembers depth members) ++ rest) (members, left)
  | [], _, _, _, hrest => hrest
  | member :: members, h, rest, left, hrest => by
    obtain ⟨hmember, hmembers⟩ := List.forall_mem_append.mp h
    obtain ⟨tail, htail, hafter⟩ := exists_intercalate_append (writeMember depth member)
      (writeMembers depth members) rest
    show Reads .members (['\n'].intercalate (writeMember depth member :: writeMembers depth members)
      ++ rest) _
    rw [htail]
    exact reads_writeMember depth member hmember
      (hafter (reads_writeMembers depth members hmembers hrest))

end

/-! ## Modules -/

/-- **A module that can be read back.** -/
def Module.IsReadable (m : Module) : Prop := ∀ leaf ∈ m.leaves, leaf.IsReadable

/-- **A module is read back from what is written for it.** -/
theorem Module.reads_write {m : Module} (h : m.IsReadable) :
    Reads .stmts m.write.toList (m.statements, []) := by
  have hread := reads_writeStmts 0 m.statements h reads_stmts_nil
  rw [List.append_nil] at hread
  rw [Module.write, String.toList_ofList]
  exact hread

/-- **No two modules are written alike.** -/
theorem Module.eq_of_write_eq {m other : Module} (h : m.IsReadable) (h' : other.IsReadable)
    (he : m.write = other.write) : m = other := by
  have hread := Module.reads_write h
  rw [he] at hread
  have hstatements : m.statements = other.statements :=
    (Prod.mk.inj (hread.eq (Module.reads_write h'))).1
  cases m
  cases other
  exact congrArg Module.mk hstatements

/-- A call of something that is called `async`, and an asynchronous function
behind it. -/
def asyncLookalikes (argument : Expr) : Module :=
  ⟨[.expr (.call (.ident ⟨"async"⟩) [argument]), .expr (.arrow true [] [])]⟩

/-- The text decides between the two, and what the argument was built from
does not matter to it. -/
theorem Module.eq_of_write_eq_lookalikes :
    asyncLookalikes (.regex (regexBody "a.b")) = asyncLookalikes (.regex "a\\.b") := by
  have hbody : regexBody "a.b" = "a\\.b" := by decide
  have hasync : (Identifier.mk "async").isValid = true := by decide
  have hread : ∀ body, (∃ text, body = regexBody text) →
      (asyncLookalikes (.regex body)).IsReadable := fun body h =>
    List.forall_mem_cons.mpr ⟨hasync, List.forall_mem_singleton.mpr h⟩
  refine Module.eq_of_write_eq (hread _ ⟨_, rfl⟩) (hread _ ⟨_, hbody.symm⟩) ?_
  rw [hbody]

end Playscript.Script
