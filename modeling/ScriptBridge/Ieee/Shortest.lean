import ScriptBridge.Ieee.Binary

/-!
# The shortest decimal text of a binary number

`shortest` finds the decimal number of fewest digits that reads back as a given binary number, the
nearest one if there are several, the larger one on a tie. All comparisons are exact: a binary
number and the bounds of the reals that round to it are natural numbers over one denominator.
`render` writes the result in positional notation, whatever its size, with a point only before
fractional digits.
-/

namespace ScriptBridge.Ieee

/-! ## The reals that round to a number -/

/-- The reals that round to a positive binary number: from `low` to `high` around `centre`, all over
`denominator`; the bounds themselves belong to it if `closed`. -/
structure Interval where
  low : Nat
  centre : Nat
  high : Nat
  denominator : Nat
  closed : Bool

/-- The interval of `significand * 2 ^ exponent`, in units of a quarter of the last binary place.
The bounds round to the even neighbour. -/
def Interval.ofBinary (significand : Nat) (exponent : Int) (tight : Bool) : Interval :=
  let unit := Nat.pow 2 (exponent - 2).toNat
  let centre := 4 * significand
  { low := (centre - if tight then 1 else 2) * unit
    centre := centre * unit
    high := (centre + 2) * unit
    denominator := Nat.pow 2 (2 - exponent).toNat
    closed := significand % 2 == 0 }

/-- The same interval divided by `10 ^ exponent`. -/
def Interval.rescale (i : Interval) (exponent : Int) : Interval :=
  let up := Nat.pow 10 (-exponent).toNat
  { i with
    low := i.low * up
    centre := i.centre * up
    high := i.high * up
    denominator := i.denominator * Nat.pow 10 exponent.toNat }

/-- Whether a whole number lies in the interval. -/
def Interval.holds (i : Interval) (n : Nat) : Bool :=
  let scaled := n * i.denominator
  if i.closed then i.low ≤ scaled && scaled ≤ i.high else i.low < scaled && scaled < i.high

/-! ## Choosing the digits -/

/-- The whole number next to the centre that lies in the interval: the nearer one if both neighbours
do, the upper one if they are equally near. -/
def Interval.whole? (i : Interval) : Option Nat :=
  let below := i.centre / i.denominator
  let upper := decide (i.denominator ≤ 2 * (i.centre % i.denominator))
  match i.holds below, i.holds (below + 1) with
  | true, true => some (if upper then below + 1 else below)
  | true, false => some below
  | false, true => some (below + 1)
  | false, false => none

/-- The exponent of the leading decimal digit of a positive fraction. -/
def leadingExponent (numerator denominator : Nat) : Int :=
  let guess : Int := (Nat.toDigits 10 numerator).length - (Nat.toDigits 10 denominator).length
  if denominator * Nat.pow 10 guess.toNat ≤ numerator * Nat.pow 10 (-guess).toNat then guess
  else guess - 1

/-- A decimal number: the whole number `digits` times `10 ^ exponent`. -/
structure Decimal where
  digits : Nat
  exponent : Int

/-- Tries one digit more at a time, at most `count` digits, from the one of weight `10 ^ exponent`
on. -/
def search (i : Interval) : Nat → Int → Option Decimal
  | 0, _ => none
  | count + 1, exponent =>
    match (i.rescale exponent).whole? with
    | some digits => some ⟨digits, exponent⟩
    | none => search i count (exponent - 1)

/-- The shortest decimal number that reads back as `significand * 2 ^ exponent`. Seventeen digits
tell any two double precision numbers apart, so the search ends. -/
def shortest (significand : Nat) (exponent : Int) (tight : Bool) : Option Decimal :=
  let i := Interval.ofBinary significand exponent tight
  search i 17 (leadingExponent i.centre i.denominator)

/-! ## Writing them -/

/-- A decimal number in positional notation. -/
def Decimal.positional (d : Decimal) : List Char :=
  let all := Nat.toDigits 10 d.digits
  let point := all.length + d.exponent
  let digits := (all.reverse.dropWhile (· == '0')).reverse
  if point ≤ 0 then '0' :: '.' :: (List.replicate (-point).toNat '0' ++ digits)
  else if digits.length ≤ point.toNat then
    digits ++ List.replicate (point.toNat - digits.length) '0'
  else digits.take point.toNat ++ '.' :: digits.drop point.toNat

/-- The text of a number; a negative one, zero included, begins with a minus sign. -/
def Datum.render : Datum → String
  | .nan => "NaN"
  | .infinite negative => if negative then "-inf" else "inf"
  | .finite negative significand exponent tight =>
    let magnitude :=
      if significand = 0 then ['0']
      else ((shortest significand exponent tight).map Decimal.positional).getD []
    String.ofList (if negative then '-' :: magnitude else magnitude)

/-- The text of a single precision number. -/
def Binary32.render (x : Binary32) : String := x.datum.render

/-- The text of a double precision number. -/
def Binary64.render (x : Binary64) : String := x.datum.render

end ScriptBridge.Ieee
