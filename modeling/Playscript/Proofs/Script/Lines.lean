import Playscript.Proofs.Script.Lexing

/-!
# Statements of one line

A line feed is written in three places: behind a statement, in the body of a
function or a class, and in a comment that has line ends of its own. Whatever
else there is of a tree stays within the line, since the literals replace line
ends and names have none. So an expression without functions in it is written
within a line, and a statement made of such expressions is one line
(`isLine_writeStmt`).

A comment is the exception among the leaves. It is not escaped but cut at its
line ends, so it is one line only if it has none.
-/

namespace Playscript.Script

/-! ## Texts within a line -/

/-- **A text without line ends.** -/
def IsUnbroken (text : List Char) : Prop := ∀ c ∈ text, isLineEnd c = false

/-- It is found out by looking at each character. -/
instance (text : List Char) : Decidable (IsUnbroken text) :=
  decidable_of_iff (text.all (!isLineEnd ·) = true) <| by
    rw [List.all_eq_true]
    exact forall₂_congr fun _ _ => iff_of_eq (Bool.not_eq_true' _)

namespace IsUnbroken

variable {text rest : List Char}

theorem append (h : IsUnbroken text) (h' : IsUnbroken rest) : IsUnbroken (text ++ rest) :=
  List.forall_mem_append.mpr ⟨h, h'⟩

theorem cons {c : Char} (hc : isLineEnd c = false) (h : IsUnbroken text) :
    IsUnbroken (c :: text) :=
  List.forall_mem_cons.mpr ⟨hc, h⟩

/-- A text between two marks. -/
theorem between {first last : Char} (hfirst : isLineEnd first = false) (h : IsUnbroken text)
    (hlast : isLineEnd last = false) : IsUnbroken (first :: (text ++ [last])) :=
  .cons hfirst (h.append (List.forall_mem_singleton.mpr hlast))

end IsUnbroken

theorem isUnbroken_indent (depth : Nat) : IsUnbroken (indent depth) := fun c hc => by
  rw [List.eq_of_mem_replicate hc]
  rfl

theorem isUnbroken_name {name : Identifier} (h : name.isValid = true) :
    IsUnbroken name.text.toList :=
  fun c hc => isLineEnd_of_isNameChar ((Identifier.isValid_iff.mp h).1.chars c hc)

theorem isUnbroken_number (value : Binary64) : IsUnbroken value.toText := fun _ hc =>
  of_mem_toText (p := (isLineEnd · = false)) (fun _ => isLineEnd_of_isNameChar) rfl rfl hc

theorem isUnbroken_quote (text : String) : IsUnbroken (quote text) :=
  .between rfl (fun _ => isLineEnd_of_mem_escape) rfl

theorem isUnbroken_slashed {body : String} (h : (Leaf.regex body).IsLegal) :
    IsUnbroken (slashed body) := by
  obtain ⟨text, rfl⟩ := h
  rw [slashed_eq]
  exact .between rfl (fun _ => isLineEnd_of_mem_regexText) rfl

theorem isUnbroken_writeKey (key : String) : IsUnbroken (writeKey key) := by
  rw [writeKey]
  split
  · next h => exact isUnbroken_name h
  · exact isUnbroken_quote key

theorem isUnbroken_enclose (e : Expr) {written : List Char} (h : IsUnbroken written) :
    IsUnbroken (enclose e written) := by
  rw [enclose]
  split
  · exact .between rfl h rfl
  · exact h

theorem isUnbroken_separated {parts : List (List Char)} (h : ∀ part ∈ parts, IsUnbroken part) :
    IsUnbroken (separated parts) := by
  induction parts with
  | nil => exact List.forall_mem_nil _
  | cons part rest ih =>
    obtain ⟨hpart, hrest⟩ := List.forall_mem_cons.mp h
    cases rest with
    | nil => exact hpart
    | cons next rest =>
      have hcomma : IsUnbroken ", ".toList := by decide
      exact (hpart.append hcomma).append (ih hrest)

theorem isUnbroken_writePattern {pattern : Pattern}
    (h : ∀ leaf ∈ pattern.leaves, leaf.IsLegal) : IsUnbroken (writePattern pattern) := by
  cases pattern with
  | name name => exact isUnbroken_name (h _ List.mem_cons_self)
  | members names =>
    have hopen : IsUnbroken "\x7b ".toList := by decide
    have hclose : IsUnbroken " \x7d".toList := by decide
    refine (hopen.append (isUnbroken_separated (List.forall_mem_map.mpr fun name hm => ?_))).append
      hclose
    exact isUnbroken_name (h _ (List.mem_map_of_mem hm))

/-! ## Expressions -/

mutual

/-- **Whether an expression has no function in it.** -/
def Expr.isInline : Expr → Bool
  | .null | .bool _ | .num _ | .str _ | .regex _ | .ident _ | .this | .super => true
  | .member object _ => object.isInline
  | .call callee args => callee.isInline && areInline args
  | .construct maker args => maker.isInline && areInline args
  | .await promise => promise.isInline
  | .object entries => areInlineEntries entries
  | .array items => areInline items
  | .arrow .. => false

/-- Whether expressions have no function in them. -/
def areInline : List Expr → Bool
  | [] => true
  | e :: rest => e.isInline && areInline rest

/-- Whether an entry has no function in it. -/
def Entry.isInline : Entry → Bool
  | ⟨_, value⟩ => value.isInline

/-- Whether entries have no function in them. -/
def areInlineEntries : List Entry → Bool
  | [] => true
  | entry :: rest => entry.isInline && areInlineEntries rest

end

/-- What is called, and the arguments behind it. -/
theorem isUnbroken_call (e : Expr) {written : List Char} {args : List (List Char)}
    (h : IsUnbroken written) (hargs : ∀ arg ∈ args, IsUnbroken arg) :
    IsUnbroken (enclose e written ++ '(' :: (separated args ++ [')'])) :=
  (isUnbroken_enclose e h).append (.between rfl (isUnbroken_separated hargs) rfl)

mutual

/-- **An expression without functions is written within a line.** -/
theorem isUnbroken_writeExpr (depth : Nat) : (e : Expr) → e.isInline = true →
    (∀ leaf ∈ e.leaves, leaf.IsLegal) → IsUnbroken (writeExpr depth e)
  | .null, _, _ => show IsUnbroken "null".toList by decide
  | .bool true, _, _ => show IsUnbroken "true".toList by decide
  | .bool false, _, _ => show IsUnbroken "false".toList by decide
  | .num value, _, _ => isUnbroken_number value
  | .str text, _, _ => isUnbroken_quote text
  | .regex body, _, h => isUnbroken_slashed (h _ List.mem_cons_self)
  | .ident name, _, h => isUnbroken_name (h _ List.mem_cons_self)
  | .this, _, _ => show IsUnbroken "this".toList by decide
  | .super, _, _ => show IsUnbroken "super".toList by decide
  | .member object property, hinline, h => by
    obtain ⟨hobject, hproperty⟩ := List.forall_mem_append.mp h
    exact (isUnbroken_enclose object (isUnbroken_writeExpr depth object hinline hobject)).append
      (.cons rfl (isUnbroken_name (hproperty _ List.mem_cons_self)))
  | .call callee args, hinline, h => by
    obtain ⟨hcallee, hargs⟩ := List.forall_mem_append.mp h
    obtain ⟨hinline, hinlines⟩ := Bool.and_eq_true_iff.mp hinline
    exact isUnbroken_call callee (isUnbroken_writeExpr depth callee hinline hcallee)
      (isUnbroken_of_mem_writeExprs depth args hinlines hargs)
  | .construct maker args, hinline, h => by
    obtain ⟨hmaker, hargs⟩ := List.forall_mem_append.mp h
    obtain ⟨hinline, hinlines⟩ := Bool.and_eq_true_iff.mp hinline
    have hnew : IsUnbroken "new ".toList := by decide
    show IsUnbroken ("new ".toList ++ enclose maker (writeExpr depth maker)
      ++ '(' :: (separated (writeExprs depth args) ++ [')']))
    rw [List.append_assoc]
    exact hnew.append (isUnbroken_call maker (isUnbroken_writeExpr depth maker hinline hmaker)
      (isUnbroken_of_mem_writeExprs depth args hinlines hargs))
  | .await promise, hinline, h => by
    have hawait : IsUnbroken "await ".toList := by decide
    exact hawait.append (isUnbroken_writeExpr depth promise hinline h)
  | .object [], _, _ => show IsUnbroken "\x7b\x7d".toList by decide
  | .object (entry :: entries), hinline, h => by
    have hopen : IsUnbroken "\x7b ".toList := by decide
    have hclose : IsUnbroken " \x7d".toList := by decide
    exact (hopen.append (isUnbroken_separated
      (isUnbroken_of_mem_writeEntries depth (entry :: entries) hinline h))).append hclose
  | .array items, hinline, h =>
    .between rfl (isUnbroken_separated (isUnbroken_of_mem_writeExprs depth items hinline h)) rfl

theorem isUnbroken_of_mem_writeExprs (depth : Nat) : (es : List Expr) → areInline es = true →
    (∀ leaf ∈ leavesOfExprs es, leaf.IsLegal) →
    ∀ written ∈ writeExprs depth es, IsUnbroken written
  | [], _, _ => List.forall_mem_nil _
  | e :: rest, hinline, h => by
    obtain ⟨he, hrest⟩ := List.forall_mem_append.mp h
    obtain ⟨hinline, hinlines⟩ := Bool.and_eq_true_iff.mp hinline
    exact List.forall_mem_cons.mpr ⟨isUnbroken_writeExpr depth e hinline he,
      isUnbroken_of_mem_writeExprs depth rest hinlines hrest⟩

theorem isUnbroken_writeEntry (depth : Nat) : (entry : Entry) → entry.isInline = true →
    (∀ leaf ∈ entry.leaves, leaf.IsLegal) → IsUnbroken (writeEntry depth entry)
  | ⟨key, value⟩, hinline, h => by
    have hcolon : IsUnbroken ": ".toList := by decide
    exact ((isUnbroken_writeKey key).append hcolon).append
      (isUnbroken_writeExpr depth value hinline (List.forall_mem_cons.mp h).2)

theorem isUnbroken_of_mem_writeEntries (depth : Nat) : (entries : List Entry) →
    areInlineEntries entries = true → (∀ leaf ∈ leavesOfEntries entries, leaf.IsLegal) →
    ∀ written ∈ writeEntries depth entries, IsUnbroken written
  | [], _, _ => List.forall_mem_nil _
  | entry :: rest, hinline, h => by
    obtain ⟨hentry, hrest⟩ := List.forall_mem_append.mp h
    obtain ⟨hinline, hinlines⟩ := Bool.and_eq_true_iff.mp hinline
    exact List.forall_mem_cons.mpr ⟨isUnbroken_writeEntry depth entry hinline hentry,
      isUnbroken_of_mem_writeEntries depth rest hinlines hrest⟩

end

/-! ## Lines -/

/-- **A text of one line**: there is one line end in it, a line feed at the
end. -/
def IsLine (text : List Char) : Prop := ∃ content, text = content ++ ['\n'] ∧ IsUnbroken content

/-- The number of line ends in a text. -/
def lineCount (text : List Char) : Nat := text.countP isLineEnd

theorem IsLine.lineCount_eq {text : List Char} (h : IsLine text) : lineCount text = 1 := by
  obtain ⟨content, rfl, hcontent⟩ := h
  have hnone : content.countP isLineEnd = 0 :=
    List.countP_eq_zero.mpr fun c hc => Bool.eq_false_iff.mp (hcontent c hc)
  rw [lineCount, List.countP_append, hnone]
  rfl

/-- **Lines one after the other** are as many as there are. -/
theorem lineCount_flatten {lines : List (List Char)} (h : ∀ line ∈ lines, IsLine line) :
    lineCount lines.flatten = lines.length := by
  induction lines with
  | nil => rfl
  | cons line lines ih =>
    obtain ⟨hline, hlines⟩ := List.forall_mem_cons.mp h
    rw [List.flatten_cons, lineCount, List.countP_append]
    exact (congrArg₂ _ hline.lineCount_eq (ih hlines)).trans (Nat.add_comm _ _)

/-- **Whether a statement is one of a line.** -/
def Stmt.isInline : Stmt → Bool
  | .const _ value => value.isInline
  | .assign object _ value => object.isInline && value.isInline
  | .expr value => value.isInline
  | .ret none => true
  | .ret (some value) => value.isInline
  | .comment text => decide (IsUnbroken text.toList)
  | .blank => true
  | .classDecl _ => false

/-- A line that ends in a semicolon. -/
theorem IsUnbroken.ended {content : List Char} (h : IsUnbroken content) :
    IsLine (content ++ ";\n".toList) := by
  refine ⟨content ++ [';'], ?_, h.append (by decide)⟩
  rw [List.append_assoc]
  rfl

/-- **Such a statement is written as one line.** -/
theorem isLine_writeStmt (depth : Nat) {stmt : Stmt} (hinline : stmt.isInline = true)
    (h : ∀ leaf ∈ stmt.leaves, leaf.IsLegal) : IsLine (writeStmt depth stmt) := by
  have hindent := isUnbroken_indent depth
  have hequals : IsUnbroken " = ".toList := by decide
  cases stmt with
  | const pattern value =>
    obtain ⟨hpattern, hvalue⟩ := List.forall_mem_append.mp h
    have hconst : IsUnbroken "const ".toList := by decide
    exact ((((hindent.append hconst).append (isUnbroken_writePattern hpattern)).append
      hequals).append (isUnbroken_writeExpr depth value hinline hvalue)).ended
  | assign object property value =>
    obtain ⟨hobject, hrest⟩ := List.forall_mem_append.mp h
    obtain ⟨hproperty, hvalue⟩ := List.forall_mem_cons.mp hrest
    obtain ⟨hinline, hinline'⟩ := Bool.and_eq_true_iff.mp hinline
    have htarget := (hindent.append (isUnbroken_enclose object
      (isUnbroken_writeExpr depth object hinline hobject))).append
        (.cons (c := '.') rfl (isUnbroken_name hproperty))
    exact ((htarget.append hequals).append (isUnbroken_writeExpr depth value hinline' hvalue)).ended
  | expr value => exact (hindent.append (isUnbroken_writeExpr depth value hinline h)).ended
  | ret value =>
    cases value with
    | none =>
      have hreturn : IsUnbroken "return".toList := by decide
      have hline := (hindent.append hreturn).ended
      rwa [List.append_assoc] at hline
    | some value =>
      have hreturn : IsUnbroken "return ".toList := by decide
      exact ((hindent.append hreturn).append (isUnbroken_writeExpr depth value hinline h)).ended
  | comment text =>
    have htext : IsUnbroken text.toList := of_decide_eq_true hinline
    have hslashes : IsUnbroken "// ".toList := by decide
    show IsLine (indent depth ++ writeComment depth text ++ ['\n'])
    rw [writeComment_of_forall depth htext]
    exact ⟨_, rfl, hindent.append (hslashes.append htext)⟩
  | blank => exact ⟨[], rfl, List.forall_mem_nil _⟩
  | classDecl decl => cases hinline

/-! ## Where parts are written -/

/-- Statements are written one after the other. -/
theorem writeStmts_eq_flatten (depth : Nat) (stmts : List Stmt) :
    writeStmts depth stmts = (stmts.map (writeStmt depth)).flatten := by
  induction stmts with
  | nil => rfl
  | cons stmt rest ih =>
    rw [List.map_cons, List.flatten_cons, ← ih]
    rfl

/-- **A statement is written within those it is one of.** -/
theorem infix_writeStmts (depth : Nat) {stmt : Stmt} {stmts : List Stmt} (h : stmt ∈ stmts) :
    writeStmt depth stmt <:+: writeStmts depth stmts := by
  rw [writeStmts_eq_flatten]
  exact List.infix_of_mem_flatten (List.mem_map_of_mem h)

theorem mem_writeMembers (depth : Nat) {member : Member} {members : List Member}
    (h : member ∈ members) : writeMember depth member ∈ writeMembers depth members := by
  induction members with
  | nil => cases h
  | cons first rest ih =>
    rcases List.mem_cons.mp h with rfl | h
    · exact List.mem_cons_self
    · exact List.mem_cons_of_mem _ (ih h)

/-- What stands between others does not take them away. -/
theorem sublist_intersperse {α : Type} (sep : α) (items : List α) :
    items.Sublist (items.intersperse sep) := by
  induction items with
  | nil => exact .slnil
  | cons item rest ih =>
    cases rest with
    | nil => exact .refl _
    | cons next rest =>
      rw [List.intersperse_cons_cons]
      exact (ih.cons sep).cons_cons item

theorem infix_intercalate (sep : List Char) {part : List Char} {parts : List (List Char)}
    (h : part ∈ parts) : part <:+: sep.intercalate parts :=
  List.infix_of_mem_flatten ((sublist_intersperse sep parts).subset h)

/-- **A member is written within its class.** -/
theorem infix_writeClass (depth : Nat) {decl : ClassDecl} {member : Member}
    (h : member ∈ decl.members) : writeMember (depth + 1) member <:+: writeClass depth decl := by
  obtain ⟨name, parent, maker, members⟩ := decl
  have hwritten := mem_writeMembers (depth + 1) h
  have hwithin (parts : List (List Char)) (hm : writeMember (depth + 1) member ∈ parts) :
      writeMember (depth + 1) member <:+: writeHead name parent ++ ['\n'].intercalate parts
        ++ indent depth ++ ['\x7d'] := by
    rw [List.append_assoc]
    exact ((infix_intercalate ['\n'] hm).trans (List.suffix_append _ _).isInfix).trans
      (List.prefix_append _ _).isInfix
  cases maker with
  | none => exact hwithin _ hwritten
  | some maker => exact hwithin _ (List.mem_cons_of_mem _ hwritten)

end Playscript.Script
