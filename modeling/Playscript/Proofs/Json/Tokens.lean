import Playscript.Json.Value
import Playscript.Proofs.Json.Quoting

/-!
# Written values read back

Reading JSON has two stages, and each is met by a statement of its own.
What a piece of text contributes to the tokens of any text it stands in is
said by `Spells`, which is closed under appending, so a writer can be
followed literal by literal. What a value contributes to the work of the
machine is said by `readValue?_tokens`: the tokens of a value, met
anywhere, put that value into the innermost open container.

The two meet in `tokens`, the tokens a value is written with. Between them
white space is free, which is what lets a layout be chosen for a reader's
eyes without a word about it in the second stage.
-/

namespace Playscript.Json

/-! ## From characters to tokens -/

/-- White space in front of a text adds no token. -/
theorem tokenize?_cons_space {c : Char} (h : isSpace c = true) (rest : List Char) :
    tokenize? (c :: rest) = tokenize? rest := by
  rw [tokenize?, if_pos h]

/-- A token that can be cut off the front of a text is its first. -/
theorem tokenize?_of_next? {c : Char} {cs rest : List Char} {token : Token}
    (hc : isSpace c = false) (h : Token.next? (c :: cs) = some (token, rest)) :
    tokenize? (c :: cs) = (tokenize? rest).map (token :: ·) := by
  rw [tokenize?, if_neg (by rw [hc]; exact Bool.false_ne_true)]
  split
  · next hn =>
    rw [h] at hn
    cases hn
  · next hn =>
    rw [h] at hn
    cases hn
    rfl

/-- **What a piece of text contributes**: wherever it stands, in front of
whatever, its tokens come before those of the rest. -/
def Spells (cs : List Char) (ts : List Token) : Prop :=
  ∀ rest, tokenize? (cs ++ rest) = (tokenize? rest).map (ts ++ ·)

/-- A text that spells tokens is read as these tokens. -/
theorem Spells.tokenize? {cs : List Char} {ts : List Token} (h : Spells cs ts) :
    tokenize? cs = some ts := by
  have hr := h []
  rw [List.append_nil, Json.tokenize?, Option.map_some, List.append_nil] at hr
  exact hr

theorem Spells.append {cs ds : List Char} {ts us : List Token} (h : Spells cs ts)
    (k : Spells ds us) : Spells (cs ++ ds) (ts ++ us) := by
  intro rest
  rw [List.append_assoc, h, k, Option.map_map]
  simp only [Function.comp_def, List.append_assoc]

/-- White space spells nothing. -/
theorem spells_space {cs : List Char} (h : cs.all isSpace = true) : Spells cs [] := by
  induction cs with
  | nil =>
    intro rest
    simp
  | cons c cs ih =>
    intro rest
    rw [List.all_cons, Bool.and_eq_true] at h
    rw [List.cons_append, tokenize?_cons_space h.1]
    exact ih h.2 rest

/-- **A mark that is a token by itself spells that token**, and does so with
white space on either side of it. -/
theorem spells_mark {c : Char} {token : Token} (before after : List Char)
    (hc : isSpace c = false) (h : ∀ rest, Token.next? (c :: rest) = some (token, rest))
    (hbefore : before.all isSpace = true) (hafter : after.all isSpace = true) :
    Spells (before ++ c :: after) [token] := by
  have hmark : Spells [c] [token] := fun rest => tokenize?_of_next? hc (h rest)
  exact (spells_space hbefore).append (hmark.append (spells_space hafter))

/-- **A quoted text spells one token**, a string with the escaped text for
its body. -/
theorem spells_quote (text : String) :
    Spells (quote text) [.string (escape text.toList)] := by
  intro rest
  rw [quote, List.cons_append, List.append_assoc, List.singleton_append]
  refine tokenize?_of_next? rfl ?_
  show (scanString? (escape text.toList ++ '"' :: rest)).map _ = _
  rw [scanString?_escape_append]
  rfl

/-- A key spells a string and a colon. -/
theorem spells_key (key : String) :
    Spells (quote key ++ ": ".toList) [.string (escape key.toList), .colon] :=
  (spells_quote key).append
    (spells_mark [] [' '] rfl (fun _ => rfl) rfl rfl)

/-! ## From tokens to values -/

mutual

/-- **The tokens of a value**, in the order in which they are written. -/
def tokens : Json → List Token
  | null => [.null]
  | bool value => [.bool value]
  | number lexeme => [.number lexeme]
  | string body => [.string body]
  | array [] => [.leftBracket, .rightBracket]
  | array (item :: items) => .leftBracket :: (item.tokens ++ itemTokens items)
  | object [] => [.leftBrace, .rightBrace]
  | object ((key, value) :: members) =>
    .leftBrace :: .string key :: .colon :: (value.tokens ++ memberTokens members)

/-- The tokens behind an item of an array: the items after it, each behind
a comma, and the bracket that ends the array. -/
def itemTokens : List Json → List Token
  | [] => [.rightBracket]
  | item :: items => .comma :: (item.tokens ++ itemTokens items)

/-- The tokens behind a member of an object. -/
def memberTokens : List (List Char × Json) → List Token
  | [] => [.rightBrace]
  | (key, value) :: members =>
    .comma :: .string key :: .colon :: (value.tokens ++ memberTokens members)

end

/-- **Items that are written with a comma between them spell the rest of an
array**, when what closes the array is written behind the last. Where the
line breaks stand is left to `separator` and `last`. -/
theorem spells_items {α : Type} {piece : α → List Char} {separator last : List Char}
    (json : α → Json) (write : List α → List Char) (close : List Char)
    (hpiece : ∀ x, Spells (piece x) (json x).tokens)
    (hseparator : Spells separator [.comma]) (hlast : Spells last [.rightBracket])
    (hone : ∀ x, write [x] ++ close = piece x ++ last)
    (hmore : ∀ x y rest, write (x :: y :: rest) = piece x ++ separator ++ write (y :: rest))
    (x : α) (rest : List α) :
    Spells (write (x :: rest) ++ close) ((json x).tokens ++ itemTokens (rest.map json)) := by
  induction rest generalizing x with
  | nil =>
    rw [hone]
    exact (hpiece x).append hlast
  | cons y rest ih =>
    rw [hmore, List.append_assoc, List.append_assoc]
    exact (hpiece x).append (hseparator.append (ih y))

/-- No value begins with the bracket that ends an array. -/
theorem exists_tokens_eq_cons (value : Json) :
    ∃ token ts, value.tokens = token :: ts ∧ token ≠ .rightBracket := by
  cases value with
  | array items => cases items <;> exact ⟨_, _, rfl, by simp⟩
  | object members => rcases members with _ | ⟨⟨_, _⟩, _⟩ <;> exact ⟨_, _, rfl, by simp⟩
  | _ => exact ⟨_, _, rfl, by simp⟩

/-- The bracket in front of a value opens an array. -/
theorem readValue?_leftBracket (item : Json) (stack : List Frame) (rest : List Token) :
    readValue? stack (.leftBracket :: (item.tokens ++ rest))
      = readValue? (.array [] :: stack) (item.tokens ++ rest) := by
  obtain ⟨token, ts, he, ht⟩ := exists_tokens_eq_cons item
  rw [he, List.cons_append, readValue?]
  intro _ h
  exact ht (List.cons.inj h).1

mutual

/-- **The tokens of a value are read as this value**, with any containers
open and any tokens behind it. -/
theorem readValue?_tokens (value : Json) (stack : List Frame) (rest : List Token) :
    readValue? stack (value.tokens ++ rest) = readNext? stack value rest := by
  match value with
  | null => rfl
  | bool _ => rfl
  | number _ => rfl
  | string _ => rfl
  | array [] => rfl
  | object [] => rfl
  | array (item :: items) =>
    rw [tokens, List.cons_append, List.append_assoc, readValue?_leftBracket,
      readValue?_tokens item, readNext?_itemTokens items]
    rfl
  | object ((key, value) :: members) =>
    rw [tokens, List.cons_append, List.cons_append, List.cons_append, List.append_assoc,
      readValue?, readValue?_tokens value, readNext?_memberTokens members]
    rfl

/-- What stands behind an item is read into the array that holds it. -/
theorem readNext?_itemTokens (items done : List Json) (item : Json) (stack : List Frame)
    (rest : List Token) :
    readNext? (.array done :: stack) item (itemTokens items ++ rest)
      = readNext? stack (.array (done.reverse ++ item :: items)) rest := by
  match items with
  | [] => rw [itemTokens, List.singleton_append, readNext?, List.reverse_cons]
  | next :: items =>
    rw [itemTokens, List.cons_append, List.append_assoc, readNext?, readValue?_tokens next,
      readNext?_itemTokens items, List.reverse_cons, List.append_assoc]
    rfl

/-- What stands behind a member is read into the object that holds it. -/
theorem readNext?_memberTokens (members done : List (List Char × Json)) (key : List Char)
    (value : Json) (stack : List Frame) (rest : List Token) :
    readNext? (.object done key :: stack) value (memberTokens members ++ rest)
      = readNext? stack (.object (done.reverse ++ (key, value) :: members)) rest := by
  match members with
  | [] => rw [memberTokens, List.singleton_append, readNext?, List.reverse_cons]
  | (next, held) :: members =>
    rw [memberTokens, List.cons_append, List.cons_append, List.cons_append, List.append_assoc,
      readNext?, readValue?_tokens held, readNext?_memberTokens members, List.reverse_cons,
      List.append_assoc]
    rfl

end

/-- **A text that spells the tokens of a value is read as this value.** -/
theorem parse?_of_spells {cs : List Char} {value : Json} (h : Spells cs value.tokens) :
    parse? (String.ofList cs) = some value := by
  rw [parse?, String.toList_ofList, h.tokenize?]
  show readValue? [] value.tokens = _
  rw [← List.append_nil value.tokens, readValue?_tokens]
  rfl

end Playscript.Json
