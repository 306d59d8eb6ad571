import Playscript.Number.Binary64

/-!
# The shortest decimal of a number

A finite number stands for every decimal that is read as it: those up to
half way to its neighbours, the ends included when its significand is
even. `shortest` finds the decimal with the fewest digits among them. If
a power of ten has a multiple in the interval at all, then one of the two
multiples next to the number is in it, so two candidates are tried for
each count of digits. Of two hits the nearer is taken, and the upper one
when neither is nearer.
-/

namespace Playscript.Binary64

/-- **The decimals that are read as one number**, as multiples of a common
fraction: the number itself, the two ends of the interval around it, and
whether the ends belong to it. -/
structure Reach where
  /-- The lower end. -/
  low : Nat
  /-- The number. -/
  value : Nat
  /-- The upper end. -/
  high : Nat
  /-- The denominator of all three. -/
  unit : Nat
  /-- Whether the ends are read as the number. -/
  closed : Bool

/-- The reach of `significand · 2 ^ exponent`. Below a power of two the
next number is only half as far away. -/
def Reach.of (significand : Nat) (exponent : Int) : Reach :=
  let below := if significand = Nat.pow 2 52 && leastExponent < exponent then 1 else 2
  let scale := Nat.pow 2 (exponent - 2).toNat
  { low := (4 * significand - below) * scale
    value := 4 * significand * scale
    high := (4 * significand + 2) * scale
    unit := Nat.pow 2 (2 - exponent).toNat
    closed := significand % 2 = 0 }

/-- A reach seen from a power of ten: all three numbers divided by
`10 ^ place`. -/
def Reach.at (reach : Reach) (place : Int) : Reach :=
  let up := Nat.pow 10 (-place).toNat
  { reach with
    low := reach.low * up
    value := reach.value * up
    high := reach.high * up
    unit := reach.unit * Nat.pow 10 place.toNat }

/-- Whether a whole number is read as the number. -/
def Reach.contains (reach : Reach) (n : Nat) : Bool :=
  let n := n * reach.unit
  if reach.closed then reach.low ≤ n && n ≤ reach.high else reach.low < n && n < reach.high

/-- The whole number read as the number that is nearest to it, if there is
one. -/
def Reach.nearest? (reach : Reach) : Option Nat :=
  let down := reach.value / reach.unit
  let up := down + 1
  match reach.contains down, reach.contains up with
  | true, true =>
    if reach.value - down * reach.unit < up * reach.unit - reach.value then some down
    else some up
  | true, false => some down
  | false, true => some up
  | false, false => none

/-- The place of the leading digit: the greatest power of ten that is not
above the number. -/
def Reach.leadingPlace (reach : Reach) : Int :=
  let guess : Int := decimalLength reach.value - decimalLength reach.unit
  let view := reach.at guess
  if view.unit ≤ view.value then guess else guess - 1

/-- **The decimal with the fewest digits that is read as
`significand · 2 ^ exponent`**: its digits, and the place of the last of
them. Seventeen digits always suffice. -/
def shortest (significand : Nat) (exponent : Int) : Nat × Int :=
  let reach := Reach.of significand exponent
  let leading := reach.leadingPlace
  let found := (List.range 17).findSome? fun (count : Nat) =>
    let place := leading - count
    (reach.at place).nearest?.map fun digits =>
      if digits % 10 = 0 then (digits / 10, place + 1) else (digits, place)
  found.getD (significand, 0)

/-- The digits of a number, the last of them at a given place, without an
exponent. -/
def positional (digits : Nat) (place : Int) : List Char :=
  let written := Nat.toDigits 10 digits
  let behind := (-place).toNat
  if 0 ≤ place then written ++ List.replicate place.toNat '0'
  else if behind < written.length then
    written.take (written.length - behind) ++ '.' :: written.drop (written.length - behind)
  else '0' :: '.' :: (List.replicate (behind - written.length) '0' ++ written)

/-- Whether a finite number is whole and below `10 ^ 15` in size. -/
def isSmallWhole (significand : Nat) (exponent : Int) : Bool :=
  significand % Nat.pow 2 (-exponent).toNat = 0
    && significand * Nat.pow 2 exponent.toNat < Nat.pow 10 15 * Nat.pow 2 (-exponent).toNat

/-- **The text of a number**: all digits of a whole number below
`10 ^ 15`, so that a negative zero is `0`, and the fewest digits of any
other, never with an exponent. -/
def toText : Binary64 → List Char
  | nan => "NaN".toList
  | infinite negative => (if negative then "-Infinity" else "Infinity").toList
  | finite negative significand exponent =>
    let digits :=
      if isSmallWhole significand exponent then
        Nat.toDigits 10 (significand * Nat.pow 2 exponent.toNat / Nat.pow 2 (-exponent).toNat)
      else
        let (digits, place) := shortest significand exponent
        positional digits place
    if negative && significand ≠ 0 then '-' :: digits else digits

end Playscript.Binary64
