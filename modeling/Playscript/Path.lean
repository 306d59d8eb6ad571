import Playscript.Text.Words

/-!
# Paths

A path is a text whose parts stand between slashes. Two texts may lead the
same way: an empty part says nothing, and a lone `.` says nothing either
unless it begins the path. What a path says is its list of components
(`Path.components`), and paths are compared by it (`Path.same`,
`Path.le`); what is written about a path is its text, so operations keep
as much of the text as they can.
-/

namespace Playscript

/-- **A path**, as it is written. -/
structure Path where
  /-- The text. -/
  text : String
deriving Repr, DecidableEq

namespace Path

/-- **A step on the way that a path leads.** -/
inductive Component where
  /-- From the top. -/
  | root
  /-- From here, said at the beginning. -/
  | here
  /-- To the directory above. -/
  | up
  /-- To the entry of a name. -/
  | entry (name : String)
deriving Repr, DecidableEq

namespace Component

/-- The place of a kind of component in the order of paths. -/
def rank : Component → Nat
  | root => 0
  | here => 1
  | up => 2
  | entry _ => 3

/-- The order of components: by kind, and entries by name. -/
def compare : Component → Component → Ordering
  | entry a, entry b => compareOfLessAndEq a b
  | a, b => Ord.compare a.rank b.rank

end Component

/-- The parts of a path between its slashes. -/
def parts (path : Path) : List (List Char) :=
  Text.pieces (· = '/') path.text.toList

/-- Whether a path leads from the top. -/
def isAbsolute (path : Path) : Bool :=
  path.text.toList.head? = some '/'

/-- Whether a part behind the first one says nothing. -/
def isSilent (part : List Char) : Bool :=
  part = [] || part = ['.']

/-- The component of a part that says something. -/
def componentOf (part : List Char) : Component :=
  if part = ['.', '.'] then .up else .entry (String.ofList part)

/-- What begins the components of a path: the top, or here. -/
def start (path : Path) : List Component :=
  if path.isAbsolute then [.root]
  else if path.parts.head? = some ['.'] then [.here]
  else []

/-- **What a path says.** -/
def components (path : Path) : List Component :=
  path.start ++ (path.parts.filter (!isSilent ·)).map componentOf

/-- Whether two paths say the same. -/
def same (a b : Path) : Bool :=
  a.components = b.components

/-- The order of lists of components: the first difference decides, and a
list comes before those that it begins. -/
def compareAll : List Component → List Component → Ordering
  | [], [] => .eq
  | [], _ :: _ => .lt
  | _ :: _, [] => .gt
  | a :: as, b :: bs => (a.compare b).then (compareAll as bs)

/-- **Whether a path comes before another** or says the same. -/
def le (a b : Path) : Bool :=
  (compareAll a.components b.components).isLE

/-- **The path that leads on from another.** A path from the top stays as it
is. -/
def join (path next : Path) : Path :=
  if next.isAbsolute then next
  else if path.text.toList.getLast?.all (· = '/') then ⟨path.text ++ next.text⟩
  else ⟨path.text ++ "/" ++ next.text⟩

/-- **The name of what a path leads to**, if its last component is one. -/
def fileName? (path : Path) : Option String :=
  match path.components.getLast? with
  | some (.entry name) => some name
  | _ => none

/-- Parts without the silent ones at their end. -/
def withoutSilentEnd (parts : List (List Char)) : List (List Char) :=
  (parts.reverse.dropWhile isSilent).reverse

/-- Parts with slashes between them. -/
def ofParts (parts : List (List Char)) : Path :=
  ⟨String.ofList (['/'].intercalate parts)⟩

/-- **The path without its last component**; nothing when there is none to
take away. What is silent at the new end goes with it. -/
def parent? (path : Path) : Option Path :=
  match path.parts with
  | [] => none
  | first :: rest =>
    match withoutSilentEnd rest with
    | [] => if first = [] then none else some ⟨""⟩
    | kept =>
      match first :: withoutSilentEnd kept.dropLast with
      | [[]] => some ⟨"/"⟩
      | parts => some (ofParts parts)

/-- **The path with its last name replaced**, or with a name behind it when
it ends in none. -/
def withFileName (path : Path) (name : String) : Path :=
  match path.fileName? with
  | some _ => (path.parent?.getD ⟨""⟩).join ⟨name⟩
  | none => path.join ⟨name⟩

/-- **What the name of a file has before a suffix**; nothing when the name
does not end in the suffix or has nothing else. -/
def stem? (path : Path) (suffix : String) : Option String := do
  let name := (← path.fileName?).toList
  let stem := name.take (name.length - suffix.toList.length)
  if stem ++ suffix.toList = name && stem ≠ [] then some (String.ofList stem) else none

end Path

end Playscript
