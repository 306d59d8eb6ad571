import Playscript.Proofs.Script.Build

/-!
# Classes that are put together call by call

A class is put together by calls on a draft, in any order and number, and
finished in the end. Each call checks the names it is given, in order, and
then does what it does; so a sequence of calls is a check of all names and an
effect that cannot fail (`ClassCall.foldlM_apply`). What can go wrong is
therefore one of two things: a name is not legal, and the first such name is
reported, or all are legal and two members share one, and then the first that
repeats an earlier one is reported (`ClassCall.build_outcome`).

The constructor is kept apart from the members, but it is written as the first
element of the class, under a name that is a legal name for a member. Finishing
looks at the members only. So a class may be finished in which a member repeats
the name of the constructor (`ClassCall.not_forall_nodup_elementNames`), and
apart from that case no element of a finished class repeats another.
-/

namespace Playscript.Script

/-! ## Names that are checked in order -/

/-- Names that are all legal. -/
def AllValid (names : List String) : Prop :=
  ∀ name ∈ names, (Identifier.mk name).isValid = true

/-- **A name is the first of a list that is not legal**, for some defect. -/
def IsFirstInvalid (names : List String) (name : String) (defect : NameDefect) : Prop :=
  ∃ front behind, names = front ++ name :: behind ∧ AllValid front
    ∧ Identifier.defect? name = some defect

/-- Checks names in order, up to the first that is not legal. -/
def checkNames : List String → Except BuildError Unit
  | [] => .ok ()
  | name :: rest =>
    match Identifier.defect? name with
    | some defect => .error (.invalidIdentifier name defect)
    | none => checkNames rest

theorem isValid_iff_defect? {name : String} :
    (Identifier.mk name).isValid = true ↔ Identifier.defect? name = none := by
  rw [Identifier.isValid, Option.isNone_iff_eq_none]

/-- Checking one name is checking a list of it. -/
theorem check_bind {β : Type} (name : String) (next : Identifier → Except BuildError β) :
    (Identifier.check name >>= next) = (checkNames [name] >>= fun _ => next ⟨name⟩) := by
  rw [Identifier.check, checkNames]
  cases Identifier.defect? name <;> rfl

theorem checkNames_append (names others : List String) :
    checkNames (names ++ others) = (checkNames names >>= fun _ => checkNames others) := by
  induction names with
  | nil => rfl
  | cons name names ih =>
    rw [List.cons_append, checkNames, checkNames]
    cases Identifier.defect? name with
    | none => exact ih
    | some defect => rfl

/-- **Names pass if all are legal.** -/
theorem checkNames_eq_ok_iff {names : List String} :
    checkNames names = .ok () ↔ AllValid names := by
  induction names with
  | nil => exact iff_of_true rfl (List.forall_mem_nil _)
  | cons name names ih =>
    rw [checkNames, AllValid, List.forall_mem_cons, isValid_iff_defect?]
    cases Identifier.defect? name with
    | none => exact ih.trans (and_iff_right rfl).symm
    | some defect => simp

/-- **The first name that is not legal is reported**, and nothing else. -/
theorem checkNames_eq_error_iff {names : List String} {error : BuildError} :
    checkNames names = .error error ↔ ∃ name defect,
      error = .invalidIdentifier name defect ∧ IsFirstInvalid names name defect := by
  induction names with
  | nil => simp [checkNames, IsFirstInvalid]
  | cons name names ih =>
    rw [checkNames]
    cases hdefect : Identifier.defect? name with
    | none =>
      have hvalid := isValid_iff_defect?.mpr hdefect
      dsimp only
      rw [ih]
      constructor
      · rintro ⟨text, defect, rfl, front, behind, rfl, hfront, hfault⟩
        exact ⟨text, defect, rfl, name :: front, behind, rfl,
          List.forall_mem_cons.mpr ⟨hvalid, hfront⟩, hfault⟩
      · rintro ⟨text, defect, rfl, front, behind, he, hfront, hfault⟩
        -- the name in front is legal, so it is not the one that is reported
        cases front with
        | nil =>
          obtain rfl := (List.cons.inj he).1
          rw [hdefect] at hfault
          cases hfault
        | cons first front =>
          obtain ⟨rfl, rfl⟩ := List.cons.inj he
          exact ⟨text, defect, rfl, front, behind, rfl, (List.forall_mem_cons.mp hfront).2, hfault⟩
    | some fault =>
      constructor
      · intro h
        exact ⟨name, fault, (Except.error.inj h).symm, [], names, rfl, List.forall_mem_nil _,
          hdefect⟩
      · rintro ⟨text, defect, rfl, front, behind, he, hfront, hfault⟩
        cases front with
        | nil =>
          obtain rfl := (List.cons.inj he).1
          rw [Option.some.inj (hdefect.symm.trans hfault)]
        | cons first front =>
          obtain rfl := (List.cons.inj he).1
          have hvalid := isValid_iff_defect?.mp (hfront _ List.mem_cons_self)
          rw [hdefect] at hvalid
          cases hvalid

/-- Parameters are checked in order. -/
theorem mapM_named (params : List String) :
    params.mapM Param.named
      = (checkNames params >>= fun _ => .ok (params.map fun name => ⟨.name ⟨name⟩, none⟩)) := by
  induction params with
  | nil => rfl
  | cons name params ih =>
    rw [List.mapM_cons, ih, Param.named, Pattern.named, Identifier.check, checkNames]
    cases Identifier.defect? name with
    | some defect => rfl
    | none =>
      cases checkNames params <;> rfl

/-! ## Calls -/

/-- **A call on a class that is being put together.** -/
inductive ClassCall where
  /-- Says which class is extended. -/
  | extending (parent : String)
  /-- Sets the constructor. -/
  | constructing (params : List String) (body : List Stmt)
  /-- Adds a getter. -/
  | getter (name : String) (body : List Stmt)
  /-- Adds a method. -/
  | method (name : String) (params : List Param) (body : List Stmt)
  /-- Adds an asynchronous method. -/
  | asyncMethod (name : String) (params : List Param) (body : List Stmt)

namespace ClassCall

/-- What a call does to a draft. -/
def apply (draft : ClassDraft) : ClassCall → Except BuildError ClassDraft
  | extending parent => draft.extending parent
  | constructing params body => draft.constructing params body
  | getter name body => draft.getter name body
  | method name params body => draft.method name params body
  | asyncMethod name params body => draft.asyncMethod name params body

/-- **The class of some name that calls put together.** -/
def build (name : String) (calls : List ClassCall) : Except BuildError ClassDecl := do
  let draft ← ClassDraft.start name
  let draft ← calls.foldlM apply draft
  draft.finish

/-- The names that a call checks. -/
def names : ClassCall → List String
  | extending parent => [parent]
  | constructing params _ => params
  | getter name _ | method name _ _ | asyncMethod name _ _ => [name]

/-- The member that a call adds, if it adds one. -/
def member? : ClassCall → Option Member
  | extending _ | constructing _ _ => none
  | getter name body => some ⟨⟨name⟩, .getter, false, [], body⟩
  | method name params body => some ⟨⟨name⟩, .method, false, params, body⟩
  | asyncMethod name params body => some ⟨⟨name⟩, .method, true, params, body⟩

/-- Whether a call sets the constructor. -/
def setsConstructor : ClassCall → Bool
  | constructing _ _ => true
  | _ => false

/-- The names that are checked for a class, in order. -/
def checkedNames (name : String) (calls : List ClassCall) : List String :=
  name :: calls.flatMap names

/-- The names of the members that calls add, in order. -/
def memberNames (calls : List ClassCall) : List String :=
  (calls.filterMap member?).map (·.name.text)

/-- **The names of the elements of a class that calls put together**: a
constructor that was set is one of them. -/
def elementNames (calls : List ClassCall) : List String :=
  (if calls.any setsConstructor then ["constructor"] else []) ++ memberNames calls

/-! ## What calls come to -/

/-- What a call makes of a draft when its names are legal. -/
def effect (draft : ClassDraft) : ClassCall → ClassDraft
  | extending parent => { draft with parent := some ⟨parent⟩ }
  | constructing params body =>
    { draft with maker := some ⟨params.map fun name => ⟨.name ⟨name⟩, none⟩, body⟩ }
  | getter name body => draft.withMembers [⟨⟨name⟩, .getter, false, [], body⟩]
  | method name params body => draft.withMembers [⟨⟨name⟩, .method, false, params, body⟩]
  | asyncMethod name params body => draft.withMembers [⟨⟨name⟩, .method, true, params, body⟩]

/-- **A call checks its names and then has its effect.** -/
theorem apply_eq (draft : ClassDraft) (call : ClassCall) :
    apply draft call = (checkNames call.names >>= fun _ => .ok (effect draft call)) := by
  cases call with
  | constructing params body =>
    rw [apply, ClassDraft.constructing, mapM_named, names]
    cases checkNames params <;> rfl
  | extending parent => exact check_bind parent _
  | getter name body => exact check_bind name _
  | method name params body => exact check_bind name _
  | asyncMethod name params body => exact check_bind name _

/-- **Calls check all names and then have all effects.** -/
theorem foldlM_apply (draft : ClassDraft) (calls : List ClassCall) :
    calls.foldlM apply draft
      = (checkNames (calls.flatMap names) >>= fun _ => .ok (calls.foldl effect draft)) := by
  induction calls generalizing draft with
  | nil => rfl
  | cons call calls ih =>
    rw [List.foldlM_cons, apply_eq, List.flatMap_cons, checkNames_append]
    cases checkNames call.names with
    | error error => rfl
    | ok _ => exact ih _

/-- The draft that calls come to. -/
def draftOf (name : String) (calls : List ClassCall) : ClassDraft :=
  calls.foldl effect ⟨⟨name⟩, none, none, []⟩

theorem build_eq (name : String) (calls : List ClassCall) :
    build name calls
      = (checkNames (checkedNames name calls) >>= fun _ => (draftOf name calls).finish) := by
  have hnames : checkedNames name calls = [name] ++ calls.flatMap names := rfl
  have hstart : ClassDraft.start name
      = (checkNames [name] >>= fun _ => .ok ⟨⟨name⟩, none, none, []⟩) := check_bind name _
  rw [build, hnames, checkNames_append, hstart]
  cases checkNames [name] with
  | error error => rfl
  | ok _ =>
    show (calls.foldlM apply _ >>= _) = _
    rw [foldlM_apply]
    cases checkNames (calls.flatMap names) <;> rfl

theorem name_foldl (calls : List ClassCall) (draft : ClassDraft) :
    (calls.foldl effect draft).name = draft.name := by
  induction calls generalizing draft with
  | nil => rfl
  | cons call calls ih =>
    rw [List.foldl_cons, ih]
    cases call <;> rfl

/-- The members of a draft are those that calls add, in order. -/
theorem members_foldl (calls : List ClassCall) (draft : ClassDraft) :
    (calls.foldl effect draft).members = draft.members ++ calls.filterMap member? := by
  induction calls generalizing draft with
  | nil => exact (List.append_nil _).symm
  | cons call calls ih =>
    rw [List.foldl_cons, ih]
    cases call with
    | extending parent => rfl
    | constructing params body => rfl
    | _ => exact List.append_assoc _ _ _

/-- The constructor of a draft is set if a call sets it. -/
theorem isSome_maker_foldl (calls : List ClassCall) (draft : ClassDraft) :
    (calls.foldl effect draft).maker.isSome
      = (draft.maker.isSome || calls.any setsConstructor) := by
  induction calls generalizing draft with
  | nil => exact (Bool.or_false _).symm
  | cons call calls ih =>
    rw [List.foldl_cons, ih, List.any_cons]
    cases call with
    | constructing params body => exact (Bool.or_true _).symm
    | _ => rfl

theorem names_members_draftOf (name : String) (calls : List ClassCall) :
    (draftOf name calls).members.map (·.name.text) = memberNames calls := by
  rw [draftOf, members_foldl]
  rfl

end ClassCall

/-! ## What is finished -/

/-- The class that a draft is finished as. -/
def ClassDraft.decl (draft : ClassDraft) : ClassDecl :=
  ⟨draft.name, draft.parent, draft.maker, draft.members⟩

/-- **The names of the elements of a class**, in the order in which they are
written: the constructor first. -/
def ClassDecl.elementNames (decl : ClassDecl) : List String :=
  (if decl.maker.isSome then ["constructor"] else []) ++ decl.members.map (·.name.text)

namespace ClassCall

variable {name : String} {calls : List ClassCall}

theorem finish_draftOf (name : String) (calls : List ClassCall) :
    (draftOf name calls).finish
      = match firstRepeated? (memberNames calls) with
        | some member => .error (.duplicateMember name member)
        | none => .ok (draftOf name calls).decl := by
  have hname : (draftOf name calls).name.text = name := by rw [draftOf, name_foldl]
  rw [ClassDraft.finish, names_members_draftOf, hname]
  rfl

/-- **What is built**, and when. -/
theorem build_eq_ok_iff {decl : ClassDecl} :
    build name calls = .ok decl
      ↔ AllValid (checkedNames name calls) ∧ (memberNames calls).Nodup
        ∧ decl = (draftOf name calls).decl := by
  rw [build_eq, ← checkNames_eq_ok_iff, ← firstRepeated?_eq_none_iff]
  cases checkNames (checkedNames name calls) with
  | error error => exact iff_of_false nofun nofun
  | ok _ =>
    rw [ok_bind, finish_draftOf]
    cases firstRepeated? (memberNames calls) with
    | none => simp [eq_comm]
    | some member => simp

/-- **What is reported**, and when. -/
theorem build_eq_error_iff {error : BuildError} :
    build name calls = .error error
      ↔ (∃ text defect, error = .invalidIdentifier text defect
          ∧ IsFirstInvalid (checkedNames name calls) text defect)
        ∨ AllValid (checkedNames name calls) ∧ ∃ member, error = .duplicateMember name member
          ∧ IsFirstRepeated (memberNames calls) member := by
  rw [build_eq, ← checkNames_eq_error_iff, ← checkNames_eq_ok_iff]
  cases checkNames (checkedNames name calls) with
  | error fault => simp [bind, Except.bind]
  | ok _ =>
    rw [ok_bind, finish_draftOf]
    simp only [← firstRepeated?_eq_some_iff]
    cases firstRepeated? (memberNames calls) with
    | none => simp
    | some member => simp [eq_comm]

/-- What is built is written with the elements that the calls gave it. -/
theorem elementNames_draftOf (name : String) (calls : List ClassCall) :
    (draftOf name calls).decl.elementNames = elementNames calls := by
  have hmaker : (draftOf name calls).maker.isSome = calls.any setsConstructor :=
    isSome_maker_foldl calls _
  rw [elementNames, ← hmaker, ← names_members_draftOf name]
  rfl

/-- Elements differ if members do and none is called like a constructor that
was set. -/
theorem nodup_elementNames_iff : (elementNames calls).Nodup ↔ (memberNames calls).Nodup
    ∧ ¬ (calls.any setsConstructor = true ∧ "constructor" ∈ memberNames calls) := by
  rw [elementNames]
  split
  · next hset => simp only [hset, List.singleton_append, List.nodup_cons, true_and, and_comm]
  · next hset => simp only [hset, List.nil_append, Bool.false_eq_true, false_and, not_false_eq_true,
      and_true]

/-- **What becomes of a class that calls put together.** It is finished if all
names are legal and no two members share one. If a name is not legal the first
such is reported, and if all are the first member to repeat the name of an
earlier one. The elements of a finished class differ, unless the constructor
was set and a member is called like it. -/
theorem build_outcome (name : String) (calls : List ClassCall) :
    ((∃ decl, build name calls = .ok decl)
        ↔ AllValid (checkedNames name calls) ∧ (memberNames calls).Nodup)
      ∧ (∀ className member, build name calls = .error (.duplicateMember className member)
        ↔ AllValid (checkedNames name calls) ∧ className = name
          ∧ IsFirstRepeated (memberNames calls) member)
      ∧ (∀ text defect, build name calls = .error (.invalidIdentifier text defect)
        ↔ IsFirstInvalid (checkedNames name calls) text defect)
      ∧ ∀ decl, build name calls = .ok decl → decl.elementNames = elementNames calls
        ∧ (decl.elementNames.Nodup
          ↔ ¬ (calls.any setsConstructor = true ∧ "constructor" ∈ memberNames calls)) := by
  refine ⟨?_, fun className member => ?_, fun text defect => ?_, fun decl h => ?_⟩
  · simp only [build_eq_ok_iff, exists_and_left, exists_eq, and_true]
  · rw [build_eq_error_iff]
    simp
  · rw [build_eq_error_iff]
    simp
  · obtain ⟨-, hnodup, rfl⟩ := build_eq_ok_iff.mp h
    rw [elementNames_draftOf, nodup_elementNames_iff, and_iff_right hnodup]
    exact ⟨rfl, Iff.rfl⟩

/-- A class whose one member is called like its constructor. -/
def twoConstructors : List ClassCall :=
  [.constructing [] [], .method "constructor" [] []]

/-- **A class with a constructor and a member called like it is finished.** -/
theorem not_forall_nodup_elementNames :
    ¬ ∀ (name : String) (calls : List ClassCall), AllValid (checkedNames name calls) →
      ((∃ decl, build name calls = .ok decl) ↔ (elementNames calls).Nodup) := by
  intro h
  have hvalid : AllValid (checkedNames "LoginPage" twoConstructors) := by
    unfold AllValid
    decide
  have hmembers : (memberNames twoConstructors).Nodup := by decide
  have helements : ¬ (elementNames twoConstructors).Nodup := by decide
  exact helements ((h _ _ hvalid).mp ⟨_, build_eq_ok_iff.mpr ⟨hvalid, hmembers, rfl⟩⟩)

end ClassCall

end Playscript.Script
