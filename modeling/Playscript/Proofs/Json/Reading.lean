import Playscript.Proofs.Json.Tokens
import Playscript.Proofs.Traversal

/-!
# What is read was written

That the tokens of a value are read as this value does not say that nothing
else is. The machine that puts values together could pass over a token, or
accept tokens that no value is written with, and every text that a writer
makes would still be read right. This is the other direction, and with it
reading is settled for texts of any origin: the value that is read is the one
the tokens of the text are those of (`parse?_eq_some_iff`). In particular the
members of an object are those that stand in the text, in the order of the
text and with repeated keys repeated.

What carries the induction is that the machine forgets nothing. At every
moment the containers that are open were written with certain tokens so far
(`opened`), and these, with the value just completed and the tokens that are
left, are the tokens of the value that comes out.
-/

namespace Playscript.Json

/-! ## Containers that are open -/

/-- The tokens of items that are each followed by another. -/
def itemsWithCommas (items : List Json) : List Token :=
  items.flatMap fun item => item.tokens ++ [.comma]

/-- The tokens of members that are each followed by another. -/
def membersWithCommas (members : List (List Char × Json)) : List Token :=
  members.flatMap fun member => .string member.1 :: .colon :: (member.2.tokens ++ [.comma])

theorem itemsWithCommas_cons (item : Json) (items : List Json) :
    itemsWithCommas (item :: items) = item.tokens ++ .comma :: itemsWithCommas items := by
  rw [itemsWithCommas, List.flatMap_cons, List.append_assoc, List.singleton_append]
  rfl

theorem membersWithCommas_cons (key : List Char) (value : Json)
    (members : List (List Char × Json)) :
    membersWithCommas ((key, value) :: members)
      = .string key :: .colon :: (value.tokens ++ .comma :: membersWithCommas members) := by
  rw [membersWithCommas, List.flatMap_cons, List.cons_append, List.cons_append,
    List.append_assoc, List.singleton_append]
  rfl

/-- **The tokens that opened the containers of a stack** and filled them as
far as they are filled. -/
def opened : List Frame → List Token
  | [] => []
  | .array items :: stack => opened stack ++ .leftBracket :: itemsWithCommas items.reverse
  | .object members key :: stack =>
    opened stack
      ++ .leftBrace :: (membersWithCommas members.reverse ++ [.string key, .colon])

/-- An item that joins those of an open array. -/
theorem opened_item (items : List Json) (item : Json) (stack : List Frame) :
    opened (.array (item :: items) :: stack)
      = opened (.array items :: stack) ++ item.tokens ++ [.comma] := by
  simp only [opened, itemsWithCommas, List.reverse_cons, List.flatMap_append,
    List.flatMap_singleton, List.append_assoc, List.cons_append]

/-- A member that joins those of an open object, when the next one has
begun. -/
theorem opened_member (members : List (List Char × Json)) (key next : List Char) (value : Json)
    (stack : List Frame) :
    opened (.object ((key, value) :: members) next :: stack)
      = opened (.object members key :: stack) ++ value.tokens
        ++ [.comma, .string next, .colon] := by
  simp only [opened, membersWithCommas, List.reverse_cons, List.flatMap_append,
    List.flatMap_singleton, List.append_assoc, List.cons_append, List.nil_append]

/-! ## Containers that are closed -/

theorem itemTokens_append (items more : List Json) (item : Json) :
    itemTokens (items ++ item :: more)
      = .comma :: (itemsWithCommas items ++ (item.tokens ++ itemTokens more)) := by
  induction items with
  | nil => rfl
  | cons first items ih =>
    rw [List.cons_append, itemTokens, ih, itemsWithCommas_cons, List.append_assoc,
      List.cons_append]

theorem memberTokens_append (members more : List (List Char × Json)) (key : List Char)
    (value : Json) :
    memberTokens (members ++ (key, value) :: more)
      = .comma :: (membersWithCommas members
        ++ .string key :: .colon :: (value.tokens ++ memberTokens more)) := by
  induction members with
  | nil => rfl
  | cons first members ih =>
    obtain ⟨other, held⟩ := first
    rw [List.cons_append, memberTokens, ih, membersWithCommas_cons, List.cons_append,
      List.cons_append, List.append_assoc, List.cons_append]

/-- **The tokens of an array with a last item.** -/
theorem tokens_array_concat (items : List Json) (item : Json) :
    (array (items ++ [item])).tokens
      = .leftBracket :: (itemsWithCommas items ++ item.tokens ++ [.rightBracket]) := by
  cases items with
  | nil => rfl
  | cons first items =>
    rw [List.cons_append, tokens, itemTokens_append, itemsWithCommas_cons]
    simp only [List.append_assoc, List.cons_append]
    rfl

/-- **The tokens of an object with a last member.** -/
theorem tokens_object_concat (members : List (List Char × Json)) (key : List Char)
    (value : Json) :
    (object (members ++ [(key, value)])).tokens
      = .leftBrace :: (membersWithCommas members ++ [.string key, .colon] ++ value.tokens
        ++ [.rightBrace]) := by
  cases members with
  | nil => rfl
  | cons first members =>
    obtain ⟨other, held⟩ := first
    rw [List.cons_append, tokens, memberTokens_append, membersWithCommas_cons]
    simp only [List.append_assoc, List.cons_append]
    rfl

/-- An array that is closed behind an item. -/
theorem opened_close_array (items : List Json) (item : Json) (stack : List Frame) :
    opened stack ++ (array (item :: items).reverse).tokens
      = opened (.array items :: stack) ++ item.tokens ++ [.rightBracket] := by
  rw [List.reverse_cons, tokens_array_concat, opened]
  simp only [List.append_assoc, List.cons_append]

/-- An object that is closed behind a member. -/
theorem opened_close_object (members : List (List Char × Json)) (key : List Char) (value : Json)
    (stack : List Frame) :
    opened stack ++ (object ((key, value) :: members).reverse).tokens
      = opened (.object members key :: stack) ++ value.tokens ++ [.rightBrace] := by
  rw [List.reverse_cons, tokens_object_concat, opened]
  simp only [List.append_assoc, List.cons_append]

/-! ## Reading -/

/-- **The machine forgets no token and adds none**: what it was given before
and what is left are the tokens of the value that comes out. -/
theorem tokens_of_read {whole : Json} :
    (∀ stack ts, readValue? stack ts = some whole → whole.tokens = opened stack ++ ts)
      ∧ ∀ stack value ts, readNext? stack value ts = some whole →
        whole.tokens = opened stack ++ value.tokens ++ ts := by
  -- one case per equation of the two functions
  apply readValue?.mutual_induct
    (fun stack ts => readValue? stack ts = some whole → whole.tokens = opened stack ++ ts)
    (fun stack value ts => readNext? stack value ts = some whole →
      whole.tokens = opened stack ++ value.tokens ++ ts)
  -- values of one token, and containers that are closed as they are opened
  case case1 => exact fun _ _ ih h => (ih h).trans (List.append_assoc _ _ _)
  case case2 => exact fun _ _ _ ih h => (ih h).trans (List.append_assoc _ _ _)
  case case3 => exact fun _ _ _ ih h => (ih h).trans (List.append_assoc _ _ _)
  case case4 => exact fun _ _ _ ih h => (ih h).trans (List.append_assoc _ _ _)
  case case5 => exact fun _ _ ih h => (ih h).trans (List.append_assoc _ _ _)
  case case7 => exact fun _ _ ih h => (ih h).trans (List.append_assoc _ _ _)
  -- containers that are opened
  case case6 =>
    intro stack rest hitem ih h
    rw [readValue?] at h
    · exact (ih h).trans (List.append_assoc _ _ _)
    · exact hitem
  case case8 => exact fun _ _ _ ih h => (ih h).trans (List.append_assoc _ _ _)
  -- a value that is the whole
  case case10 =>
    intro value h
    rw [← Option.some.inj h]
    exact (List.append_nil _).symm
  -- a value that joins a container which stays open
  case case11 =>
    intro items stack value rest ih h
    rw [ih h, opened_item, List.append_assoc]
    rfl
  case case13 =>
    intro members key stack value next rest ih h
    rw [ih h, opened_member, List.append_assoc]
    rfl
  -- a value with which a container is closed
  case case12 =>
    intro items stack value rest ih h
    rw [ih h, opened_close_array, List.append_assoc]
    rfl
  case case14 =>
    intro members key stack value rest ih h
    rw [ih h, opened_close_object, List.append_assoc]
    rfl
  -- tokens that no value goes on with
  case case9 =>
    intro ts stack _ _ _ _ _ _ _ _ h
    rw [readValue?] at h
    · cases h
    all_goals assumption
  case case15 =>
    intro ts stack value _ _ _ _ _ h
    rw [readNext?] at h
    · cases h
    all_goals assumption

/-- **What a text is read as**: the value whose tokens it has, and nothing
when its tokens are those of no value. -/
theorem parse?_eq_some_iff (text : String) (value : Json) :
    parse? text = some value ↔ tokenize? text.toList = some value.tokens := by
  unfold parse?
  constructor
  · intro h
    obtain ⟨tokens, htokens, hread⟩ := Option.bind_eq_some_iff.mp h
    rw [htokens, tokens_of_read.1 [] tokens hread]
    rfl
  · intro h
    have hread := readValue?_tokens value [] []
    rw [List.append_nil] at hread
    rw [h]
    exact hread

/-- **What is read as a table**: an object, its keys as texts and its values in
the way that was asked for, member by member. -/
theorem asTable?_eq_some_iff {α : Type} {read : Json → Option α} {value : Json}
    {table : List (String × α)} :
    value.asTable? read = some table
      ↔ ∃ members, value = object members
        ∧ List.Forall₂ (fun member entry => decodeString? member.1 = some entry.1
          ∧ read member.2 = some entry.2) members table := by
  cases value with
  | object members =>
    have hread : (object members).asTable? read
        = members.mapM fun member => ((decodeString? member.1).map (·, member.2)).bind
            fun entry => (read entry.2).map (entry.1, ·) :=
      mapM_bind_mapM _ _ members
    have hentry : ∀ (member : List Char × Json) (entry : String × α),
        ((decodeString? member.1).map (·, member.2)).bind
          (fun entry => (read entry.2).map (entry.1, ·)) = some entry
        ↔ decodeString? member.1 = some entry.1 ∧ read member.2 = some entry.2 := by
      rintro ⟨key, held⟩ ⟨name, result⟩
      cases decodeString? key with
      | none => simp
      | some text => simp [and_comm]
    simp only [hread, mapM_eq_some_iff, hentry, object.injEq, exists_eq_left']
  | _ => simp [asTable?, asObject?]

end Playscript.Json
