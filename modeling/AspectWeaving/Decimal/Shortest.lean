import AspectWeaving.Decimal.Binary64

/-! The decimal with the fewest digits that reads back as a given double-precision number. -/

namespace AspectWeaving.Decimal

/-- A non-negative decimal: its digits as a natural number, and a power of ten. -/
structure Scaled where
  digits : Nat
  exponent : Int
deriving DecidableEq, Repr

/-- The magnitudes that round to `m * 2 ^ q`, as numerators over one denominator. -/
structure Interval where
  lower : Nat
  centre : Nat
  upper : Nat
  denominator : Nat
  closed : Bool

/-- The interval of a number other than zero, in units of `10 ^ e`. -/
def Interval.around (x : Binary64) (e : Int) : Interval :=
  let m := x.significand
  let scale := Nat.pow 2 (x.exponent - 2).toNat * Nat.pow 10 (-e).toNat
  -- Below a power of two the numbers lie twice as dense.
  let below := if x.fractionField = 0 && 1 < x.exponentField then 1 else 2
  { lower := (4 * m - below) * scale
    centre := 4 * m * scale
    upper := (4 * m + 2) * scale
    denominator := Nat.pow 2 (2 - x.exponent).toNat * Nat.pow 10 e.toNat
    closed := m % 2 = 0 }

/-- Whether a natural number lies in an interval. -/
def Interval.holds (i : Interval) (n : Nat) : Bool :=
  let scaled := n * i.denominator
  if i.closed then i.lower ≤ scaled && scaled ≤ i.upper
  else i.lower < scaled && scaled < i.upper

/-- The natural number in the interval that is nearest to its centre, the even one of two. -/
def Interval.nearest? (i : Interval) : Option Nat :=
  let floor := i.centre / i.denominator
  let twice := 2 * (i.centre % i.denominator)
  let floorFirst := twice < i.denominator || (twice = i.denominator && floor % 2 = 0)
  let candidates := if floorFirst then [floor, floor + 1] else [floor + 1, floor]
  candidates.find? i.holds

/-- The number of decimal digits of a natural number. -/
def digitCount (n : Nat) : Nat := (Nat.toDigits 10 n).length

/-- The power of ten just above a number other than zero. -/
def magnitude (x : Binary64) : Int :=
  -- The shift makes every magnitude a number with digits before the point.
  let shifted := x.numerator * Nat.pow 10 400 / x.denominator
  digitCount shifted - 400

/-- Drops the zeros at the end of the digits. -/
def Scaled.strip (d : Scaled) : Nat → Scaled
  | 0 => d
  | fuel + 1 =>
    if d.digits ≠ 0 && d.digits % 10 = 0 then
      Scaled.strip ⟨d.digits / 10, d.exponent + 1⟩ fuel
    else d

/-- The first hit on the decimal grids of one to seventeen digits. -/
def shortest (x : Binary64) : Scaled :=
  if x.significand = 0 then ⟨0, 0⟩
  else
    let top := magnitude x
    -- Seventeen digits always suffice, so that there is a hit.
    let hits := (List.range 17).filterMap fun (count : Nat) =>
      let e := top - (count + 1)
      (Interval.around x e).nearest?.map fun digits => (⟨digits, e⟩ : Scaled)
    (hits.head?.getD ⟨0, 0⟩).strip 20

/-- How a decimal is laid out: where positional notation begins and ends. -/
structure Layout where
  smallestPositional : Int
  largestPositional : Int

/-- The layout of numbers in documents: positional from `1e-5` to below `1e16`. -/
def documentLayout : Layout := ⟨-4, 16⟩

/-- The text of a magnitude. -/
def Scaled.text (d : Scaled) (layout : Layout) : String :=
  let digits := Nat.toDigits 10 d.digits
  -- The place of the decimal point, counted from the first digit.
  let point := (digits.length : Int) + d.exponent
  let zeros (count : Int) : List Char := List.replicate count.toNat '0'
  if d.digits = 0 then "0.0"
  else if layout.smallestPositional ≤ point && point ≤ layout.largestPositional then
    if 0 ≤ d.exponent then String.ofList (digits ++ zeros d.exponent ++ ['.', '0'])
    else if 0 < point then
      String.ofList (digits.take point.toNat ++ ['.'] ++ digits.drop point.toNat)
    else String.ofList (['0', '.'] ++ zeros (-point) ++ digits)
  else
    let fraction := if digits.length = 1 then [] else '.' :: digits.drop 1
    let sign := if point - 1 < 0 then '-' else '+'
    let power := Nat.toDigits 10 (point - 1).natAbs
    String.ofList (digits.take 1 ++ fraction ++ ['e', sign] ++ power)

end AspectWeaving.Decimal

namespace AspectWeaving

/-- The shortest text that reads back as the number. -/
def Binary64.text (x : Binary64) : String :=
  (if x.isNegative then "-" else "") ++ (Decimal.shortest x).text Decimal.documentLayout

end AspectWeaving
