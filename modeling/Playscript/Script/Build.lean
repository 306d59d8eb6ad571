import Playscript.Repetition
import Playscript.Script.Literal
import Playscript.Script.Tree

/-!
# Building scripts

Trees from texts. Whatever is to be a name is checked on the way
(`Identifier.check`), and a class is checked for members that share a
name when it is finished, so a tree that was built holds legal names and
proper classes only. Building fails with the first fault it meets.
-/

namespace Playscript.Script

namespace Pattern

/-- The binding of one name. -/
def named (name : String) : Except BuildError Pattern :=
  Pattern.name <$> Identifier.check name

/-- The binding of the members of an object. -/
def destructured (names : List String) : Except BuildError Pattern :=
  Pattern.members <$> names.mapM Identifier.check

end Pattern

namespace Param

/-- A parameter without a value of its own. -/
def named (name : String) : Except BuildError Param :=
  return ⟨← Pattern.named name, none⟩

/-- A parameter with a value for when none is passed. -/
def withFallback (name : String) (value : Expr) : Except BuildError Param :=
  return ⟨← Pattern.named name, some value⟩

/-- A parameter that binds the members of the object passed. -/
def destructured (names : List String) : Except BuildError Param :=
  return ⟨← Pattern.destructured names, none⟩

end Param

namespace Expr

/-- A name as an expression. -/
def named (name : String) : Except BuildError Expr :=
  Expr.ident <$> Identifier.check name

/-- A member of an object, by its name. -/
def dot (object : Expr) (property : String) : Except BuildError Expr :=
  Expr.member object <$> Identifier.check property

/-- The call of a method of an object. -/
def invoke (object : Expr) (method : String) (args : List Expr) : Except BuildError Expr :=
  return .call (← object.dot method) args

/-- **The regular expression that matches a text literally.** -/
def matching (text : String) : Expr :=
  .regex (regexBody text)

end Expr

namespace Stmt

/-- The declaration of a constant. -/
def constant (name : String) (value : Expr) : Except BuildError Stmt :=
  return .const (← Pattern.named name) value

/-- An assignment to a member. -/
def assignTo (object : Expr) (property : String) (value : Expr) : Except BuildError Stmt :=
  return .assign object (← Identifier.check property) value

/-- The call that loads another module. -/
def loading (path : String) : Except BuildError Expr :=
  return .call (← Expr.named "require") [.str path]

/-- The declaration of a constant for another module. -/
def require (name path : String) : Except BuildError Stmt := do
  let value ← loading path
  constant name value

/-- The declaration of constants for members of another module. -/
def requireMembers (names : List String) (path : String) : Except BuildError Stmt := do
  let value ← loading path
  return .const (← Pattern.destructured names) value

/-- The assignment that makes a name what the module offers. -/
def offer (name : String) : Except BuildError Stmt := do
  let target ← Expr.named "module"
  assignTo target "exports" (← Expr.named name)

end Stmt

/-- **A class that is being put together.** -/
structure ClassDraft where
  /-- The name. -/
  name : Identifier
  /-- The class it extends. -/
  parent : Option Identifier
  /-- The constructor. -/
  maker : Option Maker
  /-- The members so far, in order. -/
  members : List Member

namespace ClassDraft

/-- A class of some name with nothing in it. -/
def start (name : String) : Except BuildError ClassDraft :=
  return ⟨← Identifier.check name, none, none, []⟩

/-- Says which class is extended. -/
def extending (draft : ClassDraft) (parent : String) : Except BuildError ClassDraft :=
  return { draft with parent := some (← Identifier.check parent) }

/-- Sets the constructor; one that was set before is replaced. -/
def constructing (draft : ClassDraft) (params : List String) (body : List Stmt) :
    Except BuildError ClassDraft :=
  return { draft with maker := some ⟨← params.mapM Param.named, body⟩ }

/-- Adds a member. -/
def adding (draft : ClassDraft) (name : String) (kind : MemberKind) (isAsync : Bool)
    (params : List Param) (body : List Stmt) : Except BuildError ClassDraft := do
  let name ← Identifier.check name
  return { draft with members := draft.members ++ [⟨name, kind, isAsync, params, body⟩] }

/-- Adds a getter. -/
def getter (draft : ClassDraft) (name : String) (body : List Stmt) : Except BuildError ClassDraft :=
  draft.adding name .getter false [] body

/-- Adds a method. -/
def method (draft : ClassDraft) (name : String) (params : List Param) (body : List Stmt) :
    Except BuildError ClassDraft :=
  draft.adding name .method false params body

/-- Adds an asynchronous method. -/
def asyncMethod (draft : ClassDraft) (name : String) (params : List Param) (body : List Stmt) :
    Except BuildError ClassDraft :=
  draft.adding name .method true params body

/-- **Finishes the class**, unless two of its members share a name. -/
def finish (draft : ClassDraft) : Except BuildError ClassDecl :=
  match firstRepeated? (draft.members.map (·.name.text)) with
  | some member => .error (.duplicateMember draft.name.text member)
  | none => .ok ⟨draft.name, draft.parent, draft.maker, draft.members⟩

end ClassDraft

end Playscript.Script
