/-! Double-precision numbers as their bit patterns. -/

namespace AspectWeaving

/-- A double-precision number: a sign bit, eleven exponent bits and fifty-two fraction bits. -/
structure Binary64 where
  bits : UInt64
deriving DecidableEq, Repr, Inhabited

namespace Binary64

/-- Whether the sign bit is set. -/
def isNegative (x : Binary64) : Bool := x.bits >>> 63 == 1

/-- The eleven exponent bits. -/
def exponentField (x : Binary64) : Nat := (x.bits >>> 52).toNat % 2048

/-- The value of the bit in front of the fraction bits, `2 ^ 52`, which is not stored. -/
def hiddenBit : Nat := 0x10000000000000

/-- The fifty-two fraction bits. -/
def fractionField (x : Binary64) : Nat := x.bits.toNat % hiddenBit

/-- The integer `m` of the magnitude `m * 2 ^ q`. -/
def significand (x : Binary64) : Nat :=
  if x.exponentField = 0 then x.fractionField else x.fractionField + hiddenBit

/-- The exponent `q` of the magnitude `m * 2 ^ q`. -/
def exponent (x : Binary64) : Int := (max x.exponentField 1 : Nat) - 1075

/-- Whether two finite numbers are equal; the two zeros are. -/
def sameNumber (x y : Binary64) : Bool :=
  x.bits == y.bits || (x.significand == 0 && y.significand == 0)

/-- The numerator of the magnitude as a fraction. -/
def numerator (x : Binary64) : Nat := x.significand * Nat.pow 2 x.exponent.toNat

/-- The denominator of the magnitude as a fraction. -/
def denominator (x : Binary64) : Nat := Nat.pow 2 (-x.exponent).toNat

/-- A quotient rounded to the nearest natural number, a half going to the even one. -/
def roundDiv (numerator denominator : Nat) : Nat :=
  let quotient := numerator / denominator
  let twice := 2 * (numerator % denominator)
  if denominator < twice || (twice = denominator && quotient % 2 = 1) then quotient + 1
  else quotient

/-- The greatest power of two, by its exponent, that is not above a positive fraction. -/
def floorLog2 (numerator denominator : Nat) : Int :=
  let guess : Int := (numerator.log2 : Int) - denominator.log2
  if numerator * Nat.pow 2 (-guess).toNat < denominator * Nat.pow 2 guess.toNat then guess - 1
  else guess

/-- The bits of infinity. -/
def infinityBits : Nat := 2047 * hiddenBit

/-- The number nearest to a fraction. -/
def ofRatio (numerator denominator : Nat) : Binary64 :=
  if numerator = 0 then ⟨0⟩
  else
    let exponent := max (floorLog2 numerator denominator - 52) (-1074)
    let significand :=
      roundDiv (numerator * Nat.pow 2 (-exponent).toNat) (denominator * Nat.pow 2 exponent.toNat)
    -- The hidden bit of the significand, or a carry out of it, raises the exponent by one.
    let bits := significand + (exponent + 1074).toNat * hiddenBit
    ⟨UInt64.ofNat (min bits infinityBits)⟩

/-- Whether every bit of the exponent is set. -/
def isInfinite (x : Binary64) : Bool := x.exponentField = 2047

/-- The number with its sign bit set, or without it. -/
def withSign (x : Binary64) (negative : Bool) : Binary64 :=
  if negative then ⟨x.bits ||| 0x8000000000000000⟩ else ⟨x.bits &&& 0x7fffffffffffffff⟩

/-- The number nearest to an integer. -/
def ofInt (n : Int) : Binary64 := (ofRatio n.natAbs 1).withSign (n < 0)

/-- The product of two magnitudes. -/
def mul (x y : Binary64) : Binary64 :=
  ofRatio (x.numerator * y.numerator) (x.denominator * y.denominator)

/-- The quotient of two magnitudes, the second not zero. -/
def div (x y : Binary64) : Binary64 :=
  ofRatio (x.numerator * y.denominator) (x.denominator * y.numerator)

end Binary64

end AspectWeaving
