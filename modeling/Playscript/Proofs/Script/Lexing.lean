import Playscript.Proofs.Script.Leaves
import Playscript.Proofs.Script.Lexer

/-!
# Written scripts are scanned as they were meant

Text from elsewhere reaches a script through its leaves, by four writings,
at any depth of a tree whose parts contain each other in every way. That
none of it is ever taken for code is shown here once for all trees: the
written form of each part goes from code to code (`Lexes`), closes what it
opens, and the literals that are found in it are those of its leaves, in
order (`lexes_writeStmts`). So a literal neither ends early nor late, and
none is made or lost.

Each kind of part is one case. A case says how the fixed words and marks of
the part are put around the parts within; what those look like does not
matter to it.
-/

namespace Playscript.Script

/-! ## Numbers -/

section

variable {p : Char → Prop} (hname : ∀ c, Identifier.isNameChar c = true → p c)

include hname

theorem of_mem_toDigits {n : Nat} {c : Char} (h : c ∈ Nat.toDigits 10 n) : p c :=
  hname c (Identifier.isNameChar_of_isDigit (Nat.isDigit_of_mem_toDigits (by omega) (by omega) h))

variable (hpoint : p '.')

include hpoint

theorem of_mem_positional {digits : Nat} {place : Int} {c : Char}
    (h : c ∈ Binary64.positional digits place) : p c := by
  unfold Binary64.positional at h
  have hzero : p '0' := hname '0' (by decide)
  have hzeros : ∀ {n : Nat}, c ∈ List.replicate n '0' → p c := fun hc =>
    List.eq_of_mem_replicate hc ▸ hzero
  dsimp only at h
  split at h
  · exact (List.mem_append.mp h).elim (of_mem_toDigits hname) hzeros
  split at h
  · rcases List.mem_append.mp h with h | h
    · exact of_mem_toDigits hname (List.mem_of_mem_take h)
    rcases List.mem_cons.mp h with rfl | h
    · exact hpoint
    · exact of_mem_toDigits hname (List.mem_of_mem_drop h)
  · rcases List.mem_cons.mp h with rfl | h
    · exact hzero
    rcases List.mem_cons.mp h with rfl | h
    · exact hpoint
    · exact (List.mem_append.mp h).elim hzeros (of_mem_toDigits hname)

/-- **A number is written in characters of names**, a point and a minus. -/
theorem of_mem_toText (hminus : p '-') {value : Binary64} {c : Char} (h : c ∈ value.toText) :
    p c := by
  cases value with
  | nan => exact hname c (forall_mem_of_all (p := (Identifier.isNameChar · = true)) (by decide) c h)
  | infinite negative =>
    have hall : ∀ negative, ((Binary64.infinite negative).toText.all fun d =>
        Identifier.isNameChar d || d == '-') = true := by decide
    rcases Bool.or_eq_true_iff.mp (List.all_eq_true.mp (hall negative) c h) with h | h
    · exact hname c h
    · rwa [eq_of_beq h]
  | finite negative significand exponent =>
    have hdigits : ∀ digits : List Char, (∀ c ∈ digits, p c) →
        ∀ c ∈ (if negative && significand ≠ 0 then '-' :: digits else digits), p c := by
      intro digits hall c hc
      split at hc
      · rcases List.mem_cons.mp hc with rfl | hc
        · exact hminus
        · exact hall c hc
      · exact hall c hc
    refine hdigits _ (fun d hd => ?_) c h
    split at hd
    · exact of_mem_toDigits hname hd
    · exact of_mem_positional hname hpoint hd

end

/-- **A number is written in plain characters.** -/
theorem isPlain_of_mem_toText {value : Binary64} {c : Char} (h : c ∈ value.toText) :
    isPlain c = true :=
  of_mem_toText (p := (isPlain · = true)) (fun _ => isPlain_of_isNameChar) rfl rfl h

/-! ## The literals of a tree -/

/-- The literals that a leaf is written as. A key that is a name is no
literal, and a comment is one literal per line. -/
def Leaf.tokens : Leaf → List Token
  | .name _ | .memberName _ | .number _ => []
  | .string text => [⟨.string, escape text.toList⟩]
  | .key text =>
    if (Identifier.mk text).isValid then [] else [⟨.string, escape text.toList⟩]
  | .regex body => [⟨.regex, regexText body⟩]
  | .comment text => (commentLines text.toList).map fun line => ⟨.comment, ' ' :: line⟩

/-- The literals that leaves are written as, in order. -/
def tokensOf (leaves : List Leaf) : List Token := leaves.flatMap Leaf.tokens

theorem tokensOf_append (leaves others : List Leaf) :
    tokensOf (leaves ++ others) = tokensOf leaves ++ tokensOf others := List.flatMap_append

theorem tokensOf_cons (leaf : Leaf) (leaves : List Leaf) :
    tokensOf (leaf :: leaves) = leaf.tokens ++ tokensOf leaves := List.flatMap_cons

/-! ## Parts without parts -/

theorem lexes_number (value : Binary64) : Lexes [] [] value.toText [] :=
  lexes_of_isPlain fun _ => isPlain_of_mem_toText

/-- Names with commas between them. -/
theorem lexes_names {names : List Identifier}
    (h : ∀ leaf ∈ names.map Leaf.name, leaf.IsLegal) :
    Lexes [] [] (separated (names.map (·.text.toList))) (tokensOf (names.map .name)) := by
  induction names with
  | nil => exact lexes_nil
  | cons name names ih =>
    obtain ⟨hname, hrest⟩ := List.forall_mem_cons.mp h
    rw [List.map_cons, List.map_cons, tokensOf_cons]
    exact (lexes_name hname).separated_cons (ih hrest)

theorem lexes_writePattern {pattern : Pattern} (h : ∀ leaf ∈ pattern.leaves, leaf.IsLegal) :
    Lexes [] [] (writePattern pattern) (tokensOf pattern.leaves) := by
  cases pattern with
  | name name => exact lexes_name (h _ List.mem_cons_self)
  | members names =>
    have hopen : Lexes [] ['\x7b'] "\x7b ".toList [] := lexes_of_run fun _ _ => rfl
    have hclose : Lexes ['\x7b'] [] " \x7d".toList [] := lexes_of_run fun _ _ => rfl
    exact (((lexes_names h).inside _).before hopen).behind hclose

theorem lexes_writeKey (key : String) :
    Lexes [] [] (writeKey key) (Leaf.tokens (.key key)) := by
  rw [writeKey, Leaf.tokens]
  split
  · next h => exact lexes_name h
  · exact lexes_quote key

/-- Lines of a comment, whatever is put in front of each of them. -/
theorem lexes_lines {cs : List Char} {lines : List (List Char)}
    (h : ∀ line ∈ lines, line ∈ commentLines cs) (hne : lines ≠ [])
    {lead : Nat → List Char} (hlead : ∀ i, Lexes [] [] (lead i) []) :
    Lexes [] [] (['\n'].intercalate (lines.mapIdx fun i line => lead i ++ "// ".toList ++ line)
      ++ ['\n']) (lines.map fun line => ⟨.comment, ' ' :: line⟩) := by
  induction lines generalizing lead with
  | nil => exact absurd rfl hne
  | cons line lines ih =>
    obtain ⟨hline, hrest⟩ := List.forall_mem_cons.mp h
    -- the line feed behind a line belongs to it, also where it divides lines
    have hfirst : Lexes [] [] (lead 0 ++ "// ".toList ++ line ++ ['\n'])
        [⟨.comment, ' ' :: line⟩] := by
      rw [List.append_assoc, List.append_assoc, ← List.append_assoc "// ".toList]
      exact (lexes_commentLine hline).before (hlead 0)
    rw [List.mapIdx_cons]
    cases lines with
    | nil =>
      rw [List.mapIdx_nil, List.intercalate_singleton]
      exact hfirst
    | cons next lines =>
      have hothers := ih hrest (List.cons_ne_nil _ _) fun i => hlead (i + 1)
      rw [List.mapIdx_cons] at hothers ⊢
      rw [List.intercalate_cons_cons, List.append_assoc]
      exact hfirst.append hothers

theorem commentLines_ne_nil (cs : List Char) : commentLines cs ≠ [] := by
  induction cs using commentLines.induct with
  | case1 => exact List.cons_ne_nil _ _
  | case2 => exact List.cons_ne_nil _ _
  | case3 c rest hpair hend =>
    rw [commentLines, if_pos hend]
    · exact List.cons_ne_nil _ _
    · exact hpair
  | case4 c rest hpair hend ih =>
    rw [commentLines, if_neg hend, Ne, List.modifyHead_eq_nil_iff]
    · exact ih
    · exact hpair

/-- **A comment is found line by line.** -/
theorem lexes_writeComment (depth : Nat) (text : String) :
    Lexes [] [] (writeComment depth text ++ ['\n']) (Leaf.tokens (.comment text)) := by
  refine lexes_lines (fun _ hline => hline) (commentLines_ne_nil _) fun i => ?_
  split
  · exact lexes_nil
  · exact lexes_indent depth

theorem lexes_writeHead {name : Identifier} {parent : Option Identifier}
    (h : ∀ leaf ∈ headLeaves name parent, leaf.IsLegal) :
    Lexes [] ['\x7b'] (writeHead name parent) (tokensOf (headLeaves name parent)) := by
  obtain ⟨hname, hparent⟩ := List.forall_mem_cons.mp h
  have hclass : Lexes [] [] "class ".toList [] := lexes_of_run fun _ _ => rfl
  have hextends : Lexes [] [] " extends ".toList [] := lexes_of_run fun _ _ => rfl
  have hopen : Lexes [] ['\x7b'] " \x7b\n".toList [] := lexes_of_run fun _ _ => rfl
  have hstart := (lexes_name hname).before hclass
  cases parent with
  | none => exact (hstart.behind lexes_nil).behind hopen
  | some parent =>
    have hparent : Lexes [] [] parent.text.toList [] := lexes_name (hparent _ List.mem_cons_self)
    exact (hstart.behind (hparent.before hextends)).behind hopen

theorem lexes_enclose (e : Expr) {written : List Char} {tokens : List Token}
    (h : Lexes [] [] written tokens) : Lexes [] [] (enclose e written) tokens := by
  rw [enclose]
  split
  · exact h.enclosed
  · exact h

/-- What is called, and the arguments behind it. -/
theorem lexes_call (e : Expr) {written : List Char} {args : List (List Char)}
    {tokens others : List Token} (h : Lexes [] [] written tokens)
    (hargs : Lexes [] [] (separated args) others) :
    Lexes [] [] (enclose e written ++ '(' :: (separated args ++ [')'])) (tokens ++ others) :=
  (lexes_enclose e h).append hargs.enclosed

/-- Statements between braces, the first of which ends its line. -/
theorem lexes_block (depth : Nat) {body close : List Char} {tokens : List Token}
    (h : Lexes [] [] body tokens) (hclose : Lexes ['\x7b'] [] close []) :
    Lexes ['\x7b'] [] (body ++ (indent depth ++ close)) tokens :=
  (h.inside _).behind (hclose.before ((lexes_indent depth).inside _))

/-! ## Trees -/

mutual

/-- **An expression goes from code to code, with its literals in it.** -/
theorem lexes_writeExpr (depth : Nat) : (e : Expr) → (∀ leaf ∈ e.leaves, leaf.IsLegal) →
    Lexes [] [] (writeExpr depth e) (tokensOf e.leaves)
  | .null, _ => lexes_of_run fun _ _ => rfl
  | .bool value, _ => by cases value <;> exact lexes_of_run fun _ _ => rfl
  | .num value, _ => lexes_number value
  | .str text, _ => lexes_quote text
  | .regex body, h => lexes_slashed (h _ List.mem_cons_self)
  | .ident name, h => lexes_name (h _ List.mem_cons_self)
  | .this, _ => lexes_of_run fun _ _ => rfl
  | .super, _ => lexes_of_run fun _ _ => rfl
  | .member object property, h => by
    obtain ⟨hobject, hproperty⟩ := List.forall_mem_append.mp h
    have hdot : Lexes [] [] ['.'] [] := lexes_of_run fun _ _ => rfl
    have hname := lexes_name (hproperty _ List.mem_cons_self)
    rw [Expr.leaves, tokensOf_append]
    exact (lexes_enclose object (lexes_writeExpr depth object hobject)).append (hname.before hdot)
  | .call callee args, h => by
    obtain ⟨hcallee, hargs⟩ := List.forall_mem_append.mp h
    rw [Expr.leaves, tokensOf_append]
    exact lexes_call callee (lexes_writeExpr depth callee hcallee)
      (lexes_separated_writeExprs depth args hargs)
  | .construct maker args, h => by
    obtain ⟨hmaker, hargs⟩ := List.forall_mem_append.mp h
    have hnew : Lexes [] [] "new ".toList [] := lexes_of_run fun _ _ => rfl
    rw [Expr.leaves, tokensOf_append]
    show Lexes [] [] ("new ".toList ++ enclose maker (writeExpr depth maker)
      ++ '(' :: (separated (writeExprs depth args) ++ [')'])) _
    rw [List.append_assoc]
    exact (lexes_call maker (lexes_writeExpr depth maker hmaker)
      (lexes_separated_writeExprs depth args hargs)).before hnew
  | .await promise, h => by
    have hawait : Lexes [] [] "await ".toList [] := lexes_of_run fun _ _ => rfl
    exact (lexes_writeExpr depth promise h).before hawait
  | .object [], _ => lexes_of_run fun _ _ => rfl
  | .object (entry :: entries), h => by
    have hopen : Lexes [] ['\x7b'] "\x7b ".toList [] := lexes_of_run fun _ _ => rfl
    have hclose : Lexes ['\x7b'] [] " \x7d".toList [] := lexes_of_run fun _ _ => rfl
    have hentries := lexes_separated_writeEntries depth (entry :: entries) h
    exact ((hentries.inside _).before hopen).behind hclose
  | .array items, h => (lexes_separated_writeExprs depth items h).bracketed
  | .arrow isAsync params body, h => by
    obtain ⟨hparams, hbody⟩ := List.forall_mem_append.mp h
    have hasync : Lexes [] [] (if isAsync then "async " else "").toList [] := by
      cases isAsync <;> exact lexes_of_run fun _ _ => rfl
    have hopen : Lexes [] ['('] ['('] [] := lexes_of_run fun _ _ => rfl
    have hclose : Lexes ['('] [] ") => ".toList [] := lexes_of_run fun _ _ => rfl
    have hbrace : Lexes [] ['\x7b'] "\x7b\n".toList [] := lexes_of_run fun _ _ => rfl
    have hend : Lexes ['\x7b'] [] ['\x7d'] [] := lexes_of_run fun _ _ => rfl
    have hlist := (((lexes_separated_writeParams depth params hparams).inside _).behind
      hclose).before hopen
    have hblock := lexes_block depth (lexes_writeStmts (depth + 1) body hbody) hend
    rw [Expr.leaves, tokensOf_append]
    show Lexes [] [] ((if isAsync then "async " else "").toList
      ++ '(' :: (separated (writeParams depth params) ++ ") => ".toList)
      ++ "\x7b\n".toList ++ writeStmts (depth + 1) body ++ indent depth ++ ['\x7d']) _
    rw [List.append_assoc, List.append_assoc]
    exact ((hlist.before hasync).behind hbrace).append hblock

/-- Expressions with commas between them. -/
theorem lexes_separated_writeExprs (depth : Nat) : (es : List Expr) →
    (∀ leaf ∈ leavesOfExprs es, leaf.IsLegal) →
    Lexes [] [] (separated (writeExprs depth es)) (tokensOf (leavesOfExprs es))
  | [], _ => lexes_nil
  | e :: rest, h => by
    obtain ⟨he, hrest⟩ := List.forall_mem_append.mp h
    rw [leavesOfExprs, tokensOf_append]
    exact (lexes_writeExpr depth e he).separated_cons (lexes_separated_writeExprs depth rest hrest)

theorem lexes_writeEntry (depth : Nat) : (entry : Entry) →
    (∀ leaf ∈ entry.leaves, leaf.IsLegal) →
    Lexes [] [] (writeEntry depth entry) (tokensOf entry.leaves)
  | ⟨key, value⟩, h => by
    have hcolon : Lexes [] [] ": ".toList [] := lexes_of_run fun _ _ => rfl
    rw [Entry.leaves, tokensOf_cons]
    exact ((lexes_writeKey key).behind hcolon).append
      (lexes_writeExpr depth value (List.forall_mem_cons.mp h).2)

/-- Entries with commas between them. -/
theorem lexes_separated_writeEntries (depth : Nat) : (entries : List Entry) →
    (∀ leaf ∈ leavesOfEntries entries, leaf.IsLegal) →
    Lexes [] [] (separated (writeEntries depth entries)) (tokensOf (leavesOfEntries entries))
  | [], _ => lexes_nil
  | entry :: rest, h => by
    obtain ⟨hentry, hrest⟩ := List.forall_mem_append.mp h
    rw [leavesOfEntries, tokensOf_append]
    exact (lexes_writeEntry depth entry hentry).separated_cons
      (lexes_separated_writeEntries depth rest hrest)

theorem lexes_writeParam (depth : Nat) : (param : Param) →
    (∀ leaf ∈ param.leaves, leaf.IsLegal) →
    Lexes [] [] (writeParam depth param) (tokensOf param.leaves)
  | ⟨_, none⟩, h => lexes_writePattern h
  | ⟨pattern, some value⟩, h => by
    obtain ⟨hpattern, hvalue⟩ := List.forall_mem_append.mp h
    have hequals : Lexes [] [] " = ".toList [] := lexes_of_run fun _ _ => rfl
    rw [Param.leaves, tokensOf_append]
    exact ((lexes_writePattern hpattern).behind hequals).append (lexes_writeExpr depth value hvalue)

/-- Parameters with commas between them. -/
theorem lexes_separated_writeParams (depth : Nat) : (params : List Param) →
    (∀ leaf ∈ leavesOfParams params, leaf.IsLegal) →
    Lexes [] [] (separated (writeParams depth params)) (tokensOf (leavesOfParams params))
  | [], _ => lexes_nil
  | param :: rest, h => by
    obtain ⟨hparam, hrest⟩ := List.forall_mem_append.mp h
    rw [leavesOfParams, tokensOf_append]
    exact (lexes_writeParam depth param hparam).separated_cons
      (lexes_separated_writeParams depth rest hrest)

/-- **A statement goes from code to code, with its literals in it.** -/
theorem lexes_writeStmt (depth : Nat) : (stmt : Stmt) → (∀ leaf ∈ stmt.leaves, leaf.IsLegal) →
    Lexes [] [] (writeStmt depth stmt) (tokensOf stmt.leaves)
  | .const pattern value, h => by
    obtain ⟨hpattern, hvalue⟩ := List.forall_mem_append.mp h
    have hconst : Lexes [] [] "const ".toList [] := lexes_of_run fun _ _ => rfl
    have hequals : Lexes [] [] " = ".toList [] := lexes_of_run fun _ _ => rfl
    have hend : Lexes [] [] ";\n".toList [] := lexes_of_run fun _ _ => rfl
    have hstart := (lexes_writePattern hpattern).before ((lexes_indent depth).behind hconst)
    rw [Stmt.leaves, tokensOf_append]
    exact ((hstart.behind hequals).append (lexes_writeExpr depth value hvalue)).behind hend
  | .assign object property value, h => by
    obtain ⟨hobject, hrest⟩ := List.forall_mem_append.mp h
    obtain ⟨hproperty, hvalue⟩ := List.forall_mem_cons.mp hrest
    have hdot : Lexes [] [] ['.'] [] := lexes_of_run fun _ _ => rfl
    have hequals : Lexes [] [] " = ".toList [] := lexes_of_run fun _ _ => rfl
    have hend : Lexes [] [] ";\n".toList [] := lexes_of_run fun _ _ => rfl
    have hstart := (lexes_enclose object (lexes_writeExpr depth object hobject)).before
      (lexes_indent depth)
    have htarget := hstart.behind ((lexes_name hproperty).before hdot)
    rw [Stmt.leaves, tokensOf_append]
    exact ((htarget.behind hequals).append (lexes_writeExpr depth value hvalue)).behind hend
  | .expr value, h => by
    have hend : Lexes [] [] ";\n".toList [] := lexes_of_run fun _ _ => rfl
    exact ((lexes_writeExpr depth value h).before (lexes_indent depth)).behind hend
  | .ret none, _ => by
    have hreturn : Lexes [] [] "return;\n".toList [] := lexes_of_run fun _ _ => rfl
    exact (lexes_indent depth).behind hreturn
  | .ret (some value), h => by
    have hreturn : Lexes [] [] "return ".toList [] := lexes_of_run fun _ _ => rfl
    have hend : Lexes [] [] ";\n".toList [] := lexes_of_run fun _ _ => rfl
    exact ((lexes_writeExpr depth value h).before ((lexes_indent depth).behind hreturn)).behind hend
  | .comment text, _ => by
    rw [writeStmt, List.append_assoc, Stmt.leaves, tokensOf_cons, show tokensOf [] = [] from rfl,
      List.append_nil]
    exact (lexes_writeComment depth text).before (lexes_indent depth)
  | .blank, _ => lexes_of_run fun _ _ => rfl
  | .classDecl decl, h => by
    have hend : Lexes [] [] ['\n'] [] := lexes_of_run fun _ _ => rfl
    exact ((lexes_writeClass depth decl h).before (lexes_indent depth)).behind hend

/-- **Statements go from code to code, with their literals in them.** -/
theorem lexes_writeStmts (depth : Nat) : (stmts : List Stmt) →
    (∀ leaf ∈ leavesOfStmts stmts, leaf.IsLegal) →
    Lexes [] [] (writeStmts depth stmts) (tokensOf (leavesOfStmts stmts))
  | [], _ => lexes_nil
  | stmt :: rest, h => by
    obtain ⟨hstmt, hrest⟩ := List.forall_mem_append.mp h
    rw [leavesOfStmts, tokensOf_append]
    exact (lexes_writeStmt depth stmt hstmt).append (lexes_writeStmts depth rest hrest)

theorem lexes_writeClass (depth : Nat) : (decl : ClassDecl) →
    (∀ leaf ∈ decl.leaves, leaf.IsLegal) →
    Lexes [] [] (writeClass depth decl) (tokensOf decl.leaves)
  | ⟨name, parent, none, members⟩, h => by
    obtain ⟨hhead, hmembers⟩ := List.forall_mem_append.mp h
    have hend : Lexes ['\x7b'] [] ['\x7d'] [] := lexes_of_run fun _ _ => rfl
    have hbody := lexes_intercalate_writeMembers (depth + 1) members hmembers
    have hblock := lexes_block depth hbody hend
    rw [ClassDecl.leaves, tokensOf_append, writeClass, List.append_assoc, List.append_assoc]
    exact (lexes_writeHead hhead).append hblock
  | ⟨name, parent, some maker, members⟩, h => by
    obtain ⟨hhead, hrest⟩ := List.forall_mem_append.mp h
    obtain ⟨hmaker, hmembers⟩ := List.forall_mem_append.mp hrest
    have hend : Lexes ['\x7b'] [] ['\x7d'] [] := lexes_of_run fun _ _ => rfl
    have hbody := (lexes_writeMaker (depth + 1) maker hmaker).intercalate_cons
      (lexes_intercalate_writeMembers (depth + 1) members hmembers)
    rw [ClassDecl.leaves, tokensOf_append, tokensOf_append, writeClass, List.append_assoc,
      List.append_assoc]
    exact (lexes_writeHead hhead).append (lexes_block depth hbody hend)

theorem lexes_writeMaker (depth : Nat) : (maker : Maker) →
    (∀ leaf ∈ maker.leaves, leaf.IsLegal) →
    Lexes [] [] (writeMaker depth maker) (tokensOf maker.leaves)
  | ⟨params, body⟩, h => by
    obtain ⟨hparams, hbody⟩ := List.forall_mem_append.mp h
    have hopen : Lexes [] ['('] "constructor(".toList [] := lexes_of_run fun _ _ => rfl
    have hbrace : Lexes ['('] ['\x7b'] ") \x7b\n".toList [] := lexes_of_run fun _ _ => rfl
    have hend : Lexes ['\x7b'] [] "\x7d\n".toList [] := lexes_of_run fun _ _ => rfl
    have hlist := ((lexes_separated_writeParams depth params hparams).inside ['(']).before
      ((lexes_indent depth).behind hopen)
    have hblock := lexes_block depth (lexes_writeStmts (depth + 1) body hbody) hend
    rw [Maker.leaves, tokensOf_append, writeMaker, List.append_assoc, List.append_assoc]
    exact (hlist.behind hbrace).append hblock

theorem lexes_writeMember (depth : Nat) : (member : Member) →
    (∀ leaf ∈ member.leaves, leaf.IsLegal) →
    Lexes [] [] (writeMember depth member) (tokensOf member.leaves)
  | ⟨name, kind, isAsync, params, body⟩, h => by
    obtain ⟨hname, hrest⟩ := List.forall_mem_cons.mp h
    obtain ⟨hparams, hbody⟩ := List.forall_mem_append.mp hrest
    have hasync : Lexes [] [] (if isAsync then "async " else "").toList [] := by
      cases isAsync <;> exact lexes_of_run fun _ _ => rfl
    have hget : Lexes [] [] (if kind = .getter then "get " else "").toList [] := by
      cases kind <;> exact lexes_of_run fun _ _ => rfl
    have hopen : Lexes [] ['('] ['('] [] := lexes_of_run fun _ _ => rfl
    have hbrace : Lexes ['('] ['\x7b'] ") \x7b\n".toList [] := lexes_of_run fun _ _ => rfl
    have hend : Lexes ['\x7b'] [] "\x7d\n".toList [] := lexes_of_run fun _ _ => rfl
    have hstart := ((lexes_indent depth).behind hasync |>.behind hget).behind (lexes_name hname)
    have hlist := (((lexes_separated_writeParams depth params hparams).inside _).behind
      hbrace).before hopen
    have hblock := lexes_block depth (lexes_writeStmts (depth + 1) body hbody) hend
    rw [Member.leaves, tokensOf_cons, tokensOf_append, writeMember, List.append_assoc,
      List.append_assoc]
    exact (hlist.before hstart).append hblock

/-- Members with empty lines between them. -/
theorem lexes_intercalate_writeMembers (depth : Nat) : (members : List Member) →
    (∀ leaf ∈ leavesOfMembers members, leaf.IsLegal) →
    Lexes [] [] (['\n'].intercalate (writeMembers depth members))
      (tokensOf (leavesOfMembers members))
  | [], _ => lexes_nil
  | member :: rest, h => by
    obtain ⟨hmember, hrest⟩ := List.forall_mem_append.mp h
    rw [leavesOfMembers, tokensOf_append]
    exact (lexes_writeMember depth member hmember).intercalate_cons
      (lexes_intercalate_writeMembers depth rest hrest)

end

/-! ## Modules -/

/-- **A module is scanned as it was meant**: the scan of its written form
ends in code with no bracket open, what it finds are the literals of the
module in order, and none of them runs over the end of a line. -/
structure Module.IsLexicallySound (m : Module) : Prop where
  /-- The scan ends in code, with every bracket closed. -/
  scan_eq : Lexer.scan m.write.toList = some ⟨.code, [], tokensOf m.leaves⟩
  /-- No literal runs over the end of a line. -/
  single_line : ∀ token ∈ tokensOf m.leaves, ∀ c ∈ token.text, isLineEnd c = false

/-- The literals of a legal leaf are of one line each. -/
theorem isLineEnd_of_mem_tokens {leaf : Leaf} (h : leaf.IsLegal) {token : Token}
    (ht : token ∈ leaf.tokens) {c : Char} (hc : c ∈ token.text) : isLineEnd c = false := by
  cases leaf with
  | name _ | memberName _ | number _ => cases ht
  | string text =>
    rw [List.mem_singleton.mp ht] at hc
    exact isLineEnd_of_mem_escape hc
  | key text =>
    rw [Leaf.tokens] at ht
    split at ht
    · cases ht
    · rw [List.mem_singleton.mp ht] at hc
      exact isLineEnd_of_mem_escape hc
  | regex body =>
    obtain ⟨text, rfl⟩ := h
    rw [List.mem_singleton.mp ht] at hc
    exact isLineEnd_of_mem_regexText hc
  | comment text =>
    obtain ⟨line, hline, rfl⟩ := List.mem_map.mp ht
    rcases List.mem_cons.mp hc with rfl | hc
    · rfl
    · exact isLineEnd_of_mem_commentLines hline hc

/-- **Whatever text a legal module carries, it is scanned as it was
meant.** -/
theorem Module.isLexicallySound {m : Module} (h : m.IsLegal) : m.IsLexicallySound := by
  refine ⟨?_, fun token ht c hc => ?_⟩
  · rw [write, String.toList_ofList]
    exact lexes_writeStmts 0 m.statements h [] []
  · obtain ⟨leaf, hleaf, ht⟩ := List.mem_flatMap.mp ht
    exact isLineEnd_of_mem_tokens (h leaf hleaf) ht hc

end Playscript.Script
