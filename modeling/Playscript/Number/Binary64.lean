/-!
# Numbers of the 64-bit binary format

A finite number of the format is `± significand · 2 ^ exponent`. A
decimal is read as the number nearest to it, a tie going to the even
significand, and everything is decided in exact arithmetic on natural
numbers: a decimal is a ratio, and rounding is one division.
-/

namespace Playscript

/-- **A number of the 64-bit binary format.** A finite one has a
significand below `2 ^ 53` and an exponent from -1074 to 971, and its
significand is at least `2 ^ 52` unless its exponent is -1074. -/
inductive Binary64 where
  /-- Not a number. -/
  | nan
  /-- An infinity. -/
  | infinite (negative : Bool)
  /-- The number `± significand · 2 ^ exponent`. -/
  | finite (negative : Bool) (significand : Nat) (exponent : Int)
deriving Repr, DecidableEq

namespace Binary64

/-- The least exponent of the format. -/
def leastExponent : Int := -1074

/-- The greatest exponent of the format. -/
def greatestExponent : Int := 971

/-- A ratio rounded to the nearest natural number, a tie to the even
one. -/
def roundRatio (num den : Nat) : Nat :=
  let quotient := num / den
  let twice := 2 * (num % den)
  if twice < den then quotient
  else if den < twice then quotient + 1
  else quotient + quotient % 2

/-- The ratio of `num · 2 ^ -exponent` to `den`, without fractions. -/
def scaled (num den : Nat) (exponent : Int) : Nat × Nat :=
  (num * Nat.pow 2 (-exponent).toNat, den * Nat.pow 2 exponent.toNat)

/-- **The number nearest to a ratio.** The exponent is the one that puts
the significand between `2 ^ 52` and `2 ^ 53`, unless the format does not
reach down to it. -/
def ofRatio (negative : Bool) (num den : Nat) : Binary64 :=
  if num = 0 then finite negative 0 leastExponent
  else
    let upper : Int := num.log2 - den.log2 - 52
    let (n, d) := scaled num den upper
    let exponent := max leastExponent (if n < d * Nat.pow 2 52 then upper - 1 else upper)
    let (n, d) := scaled num den exponent
    let significand := roundRatio n d
    let (significand, exponent) :=
      if significand = Nat.pow 2 53 then (Nat.pow 2 52, exponent + 1) else (significand, exponent)
    if greatestExponent < exponent then infinite negative
    else finite negative significand exponent

/-- How many decimal digits a number has. -/
def decimalLength (n : Nat) : Nat :=
  (Nat.toDigits 10 n).length

/-- **The number nearest to `digits · 10 ^ exponent`.** What is beyond
`10 ^ 400` or below `10 ^ -400` is far outside the format and is not
worked out. -/
def ofDecimal (negative : Bool) (digits : Nat) (exponent : Int) : Binary64 :=
  let magnitude := decimalLength digits + exponent
  if digits = 0 || magnitude < -400 then finite negative 0 leastExponent
  else if 400 < magnitude then infinite negative
  else ofRatio negative (digits * Nat.pow 10 exponent.toNat) (Nat.pow 10 (-exponent).toNat)

/-- The number that decimal digits write. -/
def digitsValue (digits : List Char) : Nat :=
  digits.foldl (fun n c => 10 * n + (c.toNat - 48)) 0

/-- A sign in front of a text, and the text without it. -/
def splitSign : List Char → Bool × List Char
  | '-' :: rest => (true, rest)
  | '+' :: rest => (false, rest)
  | rest => (false, rest)

/-- A whole number with or without a sign. -/
def readExponent? (cs : List Char) : Option Int :=
  let (negative, digits) := splitSign cs
  if digits.isEmpty || !digits.all Char.isDigit then none
  else some (if negative then -(digitsValue digits : Int) else digitsValue digits)

/-- Digits with at most one point among them: the digits without the
point, and how many of them stood behind it. -/
def readMantissa? (cs : List Char) : Option (List Char × Nat) :=
  let whole := cs.takeWhile Char.isDigit
  match cs.dropWhile Char.isDigit with
  | [] => if whole.isEmpty then none else some (whole, 0)
  | point :: fraction =>
    if point = '.' && fraction.all Char.isDigit && !(whole ++ fraction).isEmpty then
      some (whole ++ fraction, fraction.length)
    else none

/-- **Reads a decimal**: a sign, digits with at most one point, and an
exponent after `e` or `E`; or the names of the numbers that have no
digits, in any case. -/
def ofText? (text : String) : Option Binary64 :=
  let (negative, body) := splitSign text.toList
  let name := body.map Char.toLower
  if name = "nan".toList then some nan
  else if name = "inf".toList || name = "infinity".toList then some (infinite negative)
  else
    let isMark := fun c : Char => c = 'e' || c = 'E'
    let mantissa := body.takeWhile (!isMark ·)
    let exponent? :=
      match body.dropWhile (!isMark ·) with
      | [] => some 0
      | _ :: rest => readExponent? rest
    match readMantissa? mantissa, exponent? with
    | some (digits, places), some exponent =>
      some (ofDecimal negative (digitsValue digits) (exponent - places))
    | _, _ => none

end Binary64

end Playscript
