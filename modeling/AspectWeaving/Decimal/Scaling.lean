import AspectWeaving.Decimal.Binary64
import AspectWeaving.Word

/-!
Reading decimals: the digits become a double, which is then scaled by a power of ten.

Both the double and the power are rounded before they meet, so that a decimal of many digits may
come out as a neighbour of the nearest double.
-/

namespace AspectWeaving.Decimal

/-- The double nearest to a power of ten. -/
def powerOfTen (exponent : Nat) : Binary64 := Binary64.ofRatio (Nat.pow 10 exponent) 1

/-- The greatest exponent of a power of ten that is a finite double. -/
def greatestPower : Nat := 308

/-- Divides by a power of ten in steps of the greatest, two of which leave nothing of a word. -/
def divideByPower (x : Binary64) (exponent : Nat) : Nat → Binary64
  | 0 => ⟨0⟩
  | fuel + 1 =>
    if x.significand = 0 then x
    else if exponent ≤ greatestPower then x.div (powerOfTen exponent)
    else divideByPower (x.div (powerOfTen greatestPower)) (exponent - greatestPower) fuel

/-- Scales by a power of ten; a result that is too great has no value. -/
def scale? (x : Binary64) (exponent : Int) : Option Binary64 :=
  if x.significand = 0 then some x
  else if exponent < 0 then some (divideByPower x exponent.natAbs 3)
  else if exponent ≤ greatestPower then
    -- Both factors are rounded already, and their product is rounded once more.
    let scaled := x.mul (powerOfTen exponent.toNat)
    if scaled.isInfinite then none else some scaled
  else none

/-- What digits have come to: a number, and how many places it has to be moved to the right. -/
structure Accumulated where
  significand : Nat
  dropped : Nat
deriving Repr

/-- Takes up digits as long as a word can hold the number; the others are dropped. -/
def Accumulated.take (start : Accumulated) (digits : List Nat) : Accumulated :=
  digits.foldl (fun sum digit =>
    if sum.dropped = 0 && Word.holds (10 * sum.significand + digit) then
      { sum with significand := 10 * sum.significand + digit }
    else { sum with dropped := sum.dropped + 1 }) start

/-- The double of a decimal: the digits before and after the point, and the power of ten. -/
def read? (negative : Bool) (whole fraction : List Nat) (exponent : Int) : Option Binary64 :=
  let before := (⟨0, 0⟩ : Accumulated).take whole
  let after := (⟨before.significand, 0⟩ : Accumulated).take fraction
  let places : Int := (fraction.length : Int) - after.dropped
  let scaled := scale? (Binary64.ofRatio after.significand 1) (before.dropped - places + exponent)
  scaled.map fun x => x.withSign negative

end AspectWeaving.Decimal
