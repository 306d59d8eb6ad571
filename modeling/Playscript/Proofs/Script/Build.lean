import Playscript.Proofs.Script.Identifier
import Playscript.Proofs.Traversal
import Playscript.Script.Build

/-!
# What is built from legal names

Building a tree fails at the first name that is not legal, and finishing a
class fails where two members share a name. Here it is said what comes out
where neither happens. Each builder gets one equation, whose conditions are
exactly the checks that the builder makes; later proofs use the equations
and never open a builder.

The frame of a generated script is made of fixed words. They are listed once
(`vocabulary`) and found legal once, so that no later proof has to look at
the characters of a word.
-/

namespace Playscript.Script

/-- **The fixed words of the frame of a script**: the names in it that no
step map has a say in. -/
def vocabulary : List String := [
  "require", "module", "exports", "test", "describe", "expect", "Page", "page", "pageObj",
  "getLocatorChain", "open", "pathSegment"]

/-- **The fixed words are legal names.** -/
theorem isValid_of_mem_vocabulary (word : String) (h : word ∈ vocabulary) :
    (Identifier.mk word).isValid = true := by
  have hall : ∀ word ∈ vocabulary, (Identifier.mk word).isValid = true := by decide
  exact hall word h

/-- What follows a success goes on with its result. -/
theorem ok_bind {ε α β : Type} (value : α) (next : α → Except ε β) :
    (Except.ok value >>= next) = next value := rfl

/-! ## Names in their places -/

section Names

variable {name : String} (h : (Identifier.mk name).isValid = true)

include h

theorem Pattern.named_eq_ok : Pattern.named name = .ok (.name ⟨name⟩) := by
  rw [Pattern.named, Identifier.check_eq_ok h]
  rfl

theorem Param.named_eq_ok : Param.named name = .ok ⟨.name ⟨name⟩, none⟩ := by
  rw [Param.named, Pattern.named_eq_ok h]
  rfl

theorem Param.withFallback_eq_ok (value : Expr) :
    Param.withFallback name value = .ok ⟨.name ⟨name⟩, some value⟩ := by
  rw [Param.withFallback, Pattern.named_eq_ok h]
  rfl

theorem Expr.named_eq_ok : Expr.named name = .ok (.ident ⟨name⟩) := by
  rw [Expr.named, Identifier.check_eq_ok h]
  rfl

theorem Expr.dot_eq_ok (object : Expr) : object.dot name = .ok (.member object ⟨name⟩) := by
  rw [Expr.dot, Identifier.check_eq_ok h]
  rfl

/-- **A method with a legal name can be called.** -/
theorem Expr.invoke_eq_ok (object : Expr) (args : List Expr) :
    object.invoke name args = .ok (.call (.member object ⟨name⟩) args) := by
  rw [Expr.invoke, Expr.dot_eq_ok h]
  rfl

theorem Stmt.constant_eq_ok (value : Expr) :
    Stmt.constant name value = .ok (.const (.name ⟨name⟩) value) := by
  rw [Stmt.constant, Pattern.named_eq_ok h]
  rfl

theorem Stmt.assignTo_eq_ok (object value : Expr) :
    Stmt.assignTo object name value = .ok (.assign object ⟨name⟩ value) := by
  rw [Stmt.assignTo, Identifier.check_eq_ok h]
  rfl

end Names

/-- The binding of members with legal names. -/
theorem Pattern.destructured_eq_ok {names : List String}
    (h : ∀ name ∈ names, (Identifier.mk name).isValid = true) :
    Pattern.destructured names = .ok (.members (names.map Identifier.mk)) := by
  have hnames : names.mapM Identifier.check = .ok (names.map Identifier.mk) :=
    mapM_eq_pure fun name hm => Identifier.check_eq_ok (h name hm)
  rw [Pattern.destructured, hnames]
  rfl

theorem Param.destructured_eq_ok {names : List String}
    (h : ∀ name ∈ names, (Identifier.mk name).isValid = true) :
    Param.destructured names = .ok ⟨.members (names.map Identifier.mk), none⟩ := by
  rw [Param.destructured, Pattern.destructured_eq_ok h]
  rfl

/-! ## Modules that are loaded and offered -/

/-- The call that loads a module, as a tree. -/
def Expr.required (path : String) : Expr := .call (.ident ⟨"require"⟩) [.str path]

theorem Stmt.loading_eq_ok (path : String) : Stmt.loading path = .ok (.required path) := by
  have hrequire := isValid_of_mem_vocabulary "require" (by simp [vocabulary])
  rw [Stmt.loading, Expr.named_eq_ok hrequire]
  rfl

theorem Stmt.require_eq_ok {name : String} (h : (Identifier.mk name).isValid = true)
    (path : String) : Stmt.require name path = .ok (.const (.name ⟨name⟩) (.required path)) := by
  rw [Stmt.require, Stmt.loading_eq_ok]
  exact Stmt.constant_eq_ok h _

theorem Stmt.requireMembers_eq_ok {names : List String}
    (h : ∀ name ∈ names, (Identifier.mk name).isValid = true) (path : String) :
    Stmt.requireMembers names path
      = .ok (.const (.members (names.map Identifier.mk)) (.required path)) := by
  rw [Stmt.requireMembers, Stmt.loading_eq_ok, Pattern.destructured_eq_ok h]
  rfl

theorem Stmt.offer_eq_ok {name : String} (h : (Identifier.mk name).isValid = true) :
    Stmt.offer name = .ok (.assign (.ident ⟨"module"⟩) ⟨"exports"⟩ (.ident ⟨name⟩)) := by
  have hmodule := isValid_of_mem_vocabulary "module" (by simp [vocabulary])
  have hexports := isValid_of_mem_vocabulary "exports" (by simp [vocabulary])
  rw [Stmt.offer, Expr.named_eq_ok hmodule, Expr.named_eq_ok h]
  exact Stmt.assignTo_eq_ok hexports _ _

/-! ## Classes -/

namespace ClassDraft

/-- A draft with further members behind those it has. -/
def withMembers (draft : ClassDraft) (members : List Member) : ClassDraft :=
  { draft with members := draft.members ++ members }

theorem start_eq_ok {name : String} (h : (Identifier.mk name).isValid = true) :
    start name = .ok ⟨⟨name⟩, none, none, []⟩ := by
  rw [start, Identifier.check_eq_ok h]
  rfl

theorem extending_eq_ok (draft : ClassDraft) {parent : String}
    (h : (Identifier.mk parent).isValid = true) :
    draft.extending parent = .ok { draft with parent := some ⟨parent⟩ } := by
  rw [extending, Identifier.check_eq_ok h]
  rfl

theorem constructing_eq_ok (draft : ClassDraft) {params : List String}
    (h : ∀ name ∈ params, (Identifier.mk name).isValid = true) (body : List Stmt) :
    draft.constructing params body = .ok { draft with
      maker := some ⟨params.map fun name => ⟨.name ⟨name⟩, none⟩, body⟩ } := by
  have hparams : params.mapM Param.named = .ok (params.map fun name => ⟨.name ⟨name⟩, none⟩) :=
    mapM_eq_pure fun name hm => Param.named_eq_ok (h name hm)
  rw [constructing, hparams]
  rfl

/-- **A member with a legal name is added behind the others.** -/
theorem adding_eq_ok (draft : ClassDraft) {name : String}
    (h : (Identifier.mk name).isValid = true) (kind : MemberKind) (isAsync : Bool)
    (params : List Param) (body : List Stmt) :
    draft.adding name kind isAsync params body
      = .ok (draft.withMembers [⟨⟨name⟩, kind, isAsync, params, body⟩]) := by
  rw [adding, Identifier.check_eq_ok h]
  rfl

/-- **Where each item adds its member, a list of items adds the list of
members**, to whatever draft. -/
theorem foldlM_eq_ok {α : Type} {add : ClassDraft → α → Except BuildError ClassDraft}
    {items : List α} {members : List Member}
    (h : List.Forall₂ (fun item member =>
      ∀ draft, add draft item = .ok (draft.withMembers [member])) items members)
    (draft : ClassDraft) : items.foldlM add draft = .ok (draft.withMembers members) := by
  induction h generalizing draft with
  | nil =>
    rw [withMembers, List.append_nil]
    rfl
  | cons hadd _ ih =>
    rw [List.foldlM_cons, hadd, ok_bind, ih, withMembers, withMembers, withMembers,
      List.append_assoc]
    rfl

/-- **A class whose members differ in name can be finished.** -/
theorem finish_eq_ok {draft : ClassDraft} (h : (draft.members.map (·.name.text)).Nodup) :
    draft.finish = .ok ⟨draft.name, draft.parent, draft.maker, draft.members⟩ := by
  rw [finish, firstRepeated?_eq_none_iff.mpr h]

end ClassDraft

end Playscript.Script
