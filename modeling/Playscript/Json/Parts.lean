import Playscript.Json.Value

/-!
# The parts of a JSON value

Trees are kept as JSON in one way throughout. A record is an object whose
members are its fields, or an array of the fields in order. A choice is an
object with one member, whose key is the case and whose value is what the
case holds; a case that holds nothing may also be the bare string of its
name.

What is taken out of a value this way is smaller than the value
(`Json.Part`), so whoever reads a tree by taking it apart comes to an end.
-/

namespace Playscript.Json

/-- **A part of a value**: another value, and smaller. -/
abbrev Part (whole : Json) := { part : Json // sizeOf part < sizeOf whole }

/-- An item is smaller than its array. -/
theorem sizeOf_item_lt {item : Json} {items : List Json} (h : item ∈ items) :
    sizeOf item < sizeOf (array items) := by
  have := List.sizeOf_lt_of_mem h
  rw [array.sizeOf_spec]
  omega

/-- The value of a member is smaller than its object. -/
theorem sizeOf_member_lt {member : List Char × Json} {members : List (List Char × Json)}
    (h : member ∈ members) : sizeOf member.2 < sizeOf (object members) := by
  have := List.sizeOf_lt_of_mem h
  have : sizeOf member = 1 + sizeOf member.1 + sizeOf member.2 := rfl
  rw [object.sizeOf_spec]
  omega

/-- The items of an array as its parts. -/
def items? (value : Json) : Option (List (Part value)) :=
  match value with
  | .array items => some (items.attach.map fun item => ⟨item.1, sizeOf_item_lt item.2⟩)
  | _ => none

/-- The members of an object as its parts, under their keys. -/
def members? (value : Json) : Option (List (String × Part value)) :=
  match value with
  | .object members => members.attach.mapM fun member => do
      let key ← decodeString? member.1.1
      return (key, ⟨member.1.2, sizeOf_member_lt member.2⟩)
  | _ => none

/-- **The fields of a record**, in the order of their names: from an object,
where a field may be missing, or from an array, where none may. -/
def record? (value : Json) (names : List String) : Option (List (Option (Part value))) :=
  match value.items? with
  | some items =>
    if items.length = names.length then some (items.map some) else none
  | none => do
    let members ← value.members?
    return names.map fun name => members.lookup name

/-- **The case of a choice** and what it holds. -/
def choice? (value : Json) : Option (String × Option (Part value)) :=
  match value.asString? with
  | some name => some (name, none)
  | none => do
    match ← value.members? with
    | [(name, part)] => return (name, some part)
    | _ => none

/-- Whether a case holds nothing. -/
def holdsNothing {whole : Json} : Option (Part whole) → Bool
  | none => true
  | some ⟨.null, _⟩ => true
  | some _ => false

end Playscript.Json
