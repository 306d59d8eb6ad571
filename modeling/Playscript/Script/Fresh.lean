import Playscript.Script.Identifier

/-!
# Fresh identifiers

A text becomes an identifier that is not in use yet: mended first, and
numbered from 2 when the mended name is taken. The candidates differ from
each other, so one more than there are names in use is enough of them.
-/

namespace Playscript.Script

namespace Identifier

/-- The names to try for a name: itself, and itself with the numbers from 2
behind it. -/
def candidates (base : String) (count : Nat) : List String :=
  base :: (List.range count).map fun k => base ++ toString (k + 2)

/-- **The first name for a text that is not in use.** -/
def freshText (used : List String) (raw : String) : String :=
  let base := (legalize raw).text
  ((candidates base used.length).find? (!used.contains ·)).getD base

/-- **A fresh identifier for a text**, and the names in use with it among
them. -/
def fresh (used : List String) (raw : String) : Identifier × List String :=
  let name := freshText used raw
  (legalize name, name :: used)

/-- Fresh identifiers for several texts, each one fresh for the names the
others have taken, and the names in use in the end. -/
def freshAll (used : List String) : List String → List Identifier × List String
  | [] => ([], used)
  | raw :: rest =>
    let (name, used) := fresh used raw
    let (names, used) := freshAll used rest
    (name :: names, used)

end Identifier

end Playscript.Script
