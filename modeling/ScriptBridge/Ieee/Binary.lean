/-!
# Binary floating point

The single and double precision formats of IEEE 754, kept as bit patterns so that every statement
about them is one about machine words. `Binary32.equal` and `Binary64.equal` compare as numbers
(zeros of both signs are equal, a NaN equals nothing), `Binary32.widen` is the exact conversion to
double precision, and `decode` gives the number that a pattern stands for.
-/

namespace ScriptBridge.Ieee

/-! ## The two formats -/

/-- A single precision number: sign, 8 exponent bits, 23 fraction bits. -/
structure Binary32 where
  bits : UInt32
deriving DecidableEq

/-- A double precision number: sign, 11 exponent bits, 52 fraction bits. -/
structure Binary64 where
  bits : UInt64
deriving DecidableEq

namespace Binary32

/-- The pattern without its sign. -/
def magnitude (x : Binary32) : UInt32 := x.bits &&& 0x7fffffff

/-- Whether the pattern stands for no number: the exponent is all ones and the fraction not zero. -/
def isNaN (x : Binary32) : Bool := decide (0x7f800000 < x.magnitude)

/-- Whether the pattern is a zero of either sign. -/
def isZero (x : Binary32) : Bool := decide (x.magnitude = 0)

/-- Equality of the numbers, false as soon as one operand is a NaN. -/
def equal (x y : Binary32) : Bool :=
  !x.isNaN && !y.isNaN && (decide (x.bits = y.bits) || (x.isZero && y.isZero))

end Binary32

namespace Binary64

/-- The pattern without its sign. -/
def magnitude (x : Binary64) : UInt64 := x.bits &&& 0x7fffffffffffffff

/-- Whether the pattern stands for no number: the exponent is all ones and the fraction not zero. -/
def isNaN (x : Binary64) : Bool := decide (0x7ff0000000000000 < x.magnitude)

/-- Whether the pattern is a zero of either sign. -/
def isZero (x : Binary64) : Bool := decide (x.magnitude = 0)

/-- Equality of the numbers, false as soon as one operand is a NaN. -/
def equal (x y : Binary64) : Bool :=
  !x.isNaN && !y.isNaN && (decide (x.bits = y.bits) || (x.isZero && y.isZero))

end Binary64

/-! ## Widening -/

/-- The double precision number of the same value. A subnormal gets a leading one and an exponent of
its own; a NaN keeps its payload and becomes quiet. -/
def Binary32.widen (x : Binary32) : Binary64 :=
  let sign := (x.bits >>> 31).toUInt64 <<< 63
  let exponent := ((x.bits >>> 23) &&& 0xff).toUInt64
  let fraction := (x.bits &&& 0x7fffff).toUInt64
  if exponent = 0xff then
    let quiet : UInt64 := if fraction = 0 then 0 else 0x8000000000000
    ⟨sign ||| (0x7ff0000000000000 : UInt64) ||| quiet ||| (fraction <<< 29)⟩
  else if exponent = 0 then
    if fraction = 0 then ⟨sign⟩
    else
      let top := UInt64.ofNat fraction.toNat.log2
      ⟨sign ||| ((top + 874) <<< 52) ||| ((fraction <<< (52 - top)) &&& 0xfffffffffffff)⟩
  else ⟨sign ||| ((exponent + 896) <<< 52) ||| (fraction <<< 29)⟩

/-! ## The number a pattern stands for -/

/-- What a bit pattern stands for. A finite number is `significand * 2 ^ exponent` with its sign;
`tight` marks a number whose lower neighbour is only half as far away as its upper one. -/
inductive Datum
  | nan
  | infinite (negative : Bool)
  | finite (negative : Bool) (significand : Nat) (exponent : Int) (tight : Bool)
deriving DecidableEq

/-- Reads a pattern of one sign bit, `exponentBits` exponent bits and `fractionBits` fraction
bits. -/
def decode (exponentBits fractionBits bits : Nat) : Datum :=
  let fraction := bits % Nat.pow 2 fractionBits
  let exponent := bits / Nat.pow 2 fractionBits % Nat.pow 2 exponentBits
  let negative := decide (bits / Nat.pow 2 (fractionBits + exponentBits) % 2 = 1)
  let least : Int := 2 - Nat.pow 2 (exponentBits - 1) - fractionBits
  if exponent = Nat.pow 2 exponentBits - 1 then
    if fraction = 0 then .infinite negative else .nan
  else if exponent = 0 then .finite negative fraction least false
  else
    .finite negative (Nat.pow 2 fractionBits + fraction) (least + (exponent - 1))
      (decide (fraction = 0 ∧ 1 < exponent))

/-- The number a single precision pattern stands for. -/
def Binary32.datum (x : Binary32) : Datum := decode 8 23 x.bits.toNat

/-- The number a double precision pattern stands for. -/
def Binary64.datum (x : Binary64) : Datum := decode 11 52 x.bits.toNat

end ScriptBridge.Ieee
