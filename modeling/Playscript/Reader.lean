/-!
# Readers

A reader takes something off the front of a text or refuses to. Of two
readers the second is tried where the first refuses, from the same place,
and a repetition takes as much as it can and never gives any of it back;
so what a grammar of readers takes is decided by the order of its
alternatives alone.

There is a third answer. A reader may find that the text is wrong whatever
alternatives remain (`Reply.aborted`), and then so does every reader it is
a part of.
-/

namespace Playscript

/-- **The answer of a reader.** -/
inductive Reply (α : Type) where
  /-- Something was read, and this is left. -/
  | done (value : α) (rest : List Char)
  /-- This reader does not apply here. -/
  | refused
  /-- The text is wrong. -/
  | aborted
deriving Repr, DecidableEq

/-- **A way to take something off the front of a text.** -/
def Reader (α : Type) := List Char → Reply α

namespace Reader

variable {α β σ : Type}

instance : Monad Reader where
  pure value := fun input => .done value input
  bind read next := fun input =>
    match read input with
    | .done value rest => next value rest
    | .refused => .refused
    | .aborted => .aborted

/-- Does not apply anywhere. -/
def refuse : Reader α := fun _ => .refused

/-- Finds every text wrong. -/
def abort : Reader α := fun _ => .aborted

instance : OrElse (Reader α) where
  orElse first second := fun input =>
    match first input with
    | .refused => second () input
    | reply => reply

/-- Applies where the other reader does not, and takes nothing. -/
def absent (read : Reader α) : Reader Unit := fun input =>
  match read input with
  | .done _ _ => .refused
  | .refused => .done () input
  | .aborted => .aborted

/-- Takes what the other reader takes, or else nothing. -/
def optional (read : Reader α) : Reader (Option α) :=
  (do return some (← read)) <|> pure none

/-- Applies at the end of the text. -/
def ended : Reader Unit
  | [] => .done () []
  | _ :: _ => .refused

/-- Takes a character of a class. -/
def one (take : Char → Bool) : Reader Char
  | [] => .refused
  | c :: rest => if take c then .done c rest else .refused

/-- Takes the characters of a class that come next, if there are any. -/
def run (take : Char → Bool) : Reader (List Char) := fun input =>
  .done (input.takeWhile take) (input.dropWhile take)

/-- Takes a phrase. -/
def phrase (text : String) : Reader Unit := fun input =>
  if text.toList.isPrefixOf input then .done () (input.drop text.toList.length) else .refused

/-- Takes the first phrase of a list that comes next. -/
def phraseOf (texts : List String) : Reader Unit := fun input =>
  match texts.find? (·.toList.isPrefixOf input) with
  | some text => .done () (input.drop text.toList.length)
  | none => .refused

/-- **Repeats a reader as long as it applies**, handing on a state. A turn
that takes nothing is the last. -/
def manyFrom (read : σ → Reader (α × σ)) (state : σ) (input : List Char) : Reply (List α) :=
  match read state input with
  | .refused => .done [] input
  | .aborted => .aborted
  | .done (value, next) rest =>
    if rest.length < input.length then
      match manyFrom read next rest with
      | .done values rest => .done (value :: values) rest
      | .refused => .refused
      | .aborted => .aborted
    else .done [value] rest
termination_by input.length

/-- Repeats a reader as long as it applies. -/
def many (read : Reader α) : Reader (List α) :=
  manyFrom (fun _ => do return (← read, ())) ()

/-- Repeats a reader that must apply once. -/
def someOf (read : Reader α) : Reader (List α) := do
  let first ← read
  let others ← many read
  return first :: others

/-- **Repeats a reader with a state, and another between its turns**, which
counts only where a further turn follows. -/
def manyBetween (read : σ → Reader (α × σ)) (between : Reader β) (state : σ) :
    Reader (List α) :=
  (do
    let (first, next) ← read state
    let others ← manyFrom (fun state => do let _ ← between; read state) next
    return first :: others)
  <|> pure []

/-- Repeats a reader, and another between its turns. -/
def separated (read : Reader α) (between : Reader β) : Reader (List α) :=
  manyBetween (fun _ => do return (← read, ())) between ()

end Reader

end Playscript
