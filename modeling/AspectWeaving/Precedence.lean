/-! The order in which advices run. -/

namespace AspectWeaving

/-- A wish for a place among others: first, at a number, or last. -/
inductive Order where
  | highest
  | value (n : Int)
  | lowest
deriving DecidableEq, Repr, Inhabited

namespace Order

/-- Whether one wish comes strictly before another. -/
def before : Order → Order → Bool
  | .highest, .highest => false
  | .highest, _ => true
  | .value _, .highest => false
  | .value m, .value n => m < n
  | .value _, .lowest => true
  | .lowest, _ => false

/-- Whether one wish is another or comes before it. -/
def le (x y : Order) : Bool := !y.before x

/-- The debug text of an order. -/
def debugText : Order → String
  | .highest => "Highest"
  | .value n => "Value(" ++ toString n ++ ")"
  | .lowest => "Lowest"

end Order

/-- The place of an advice: by its aspect's order and age, then by its own. -/
structure Precedence where
  aspectOrder : Order
  aspectSeq : Nat
  adviceOrder : Order
  adviceSeq : Nat
deriving DecidableEq, Repr, Inhabited

namespace Precedence

/-- Whether one place comes strictly before another. -/
def before (x y : Precedence) : Bool :=
  x.aspectOrder.before y.aspectOrder
    || x.aspectOrder == y.aspectOrder
      && (x.aspectSeq < y.aspectSeq
        || x.aspectSeq == y.aspectSeq
          && (x.adviceOrder.before y.adviceOrder
            || x.adviceOrder == y.adviceOrder && x.adviceSeq < y.adviceSeq))

/-- Whether one place is another or comes before it. -/
def le (x y : Precedence) : Bool := !y.before x

/-- The debug text of a precedence. -/
def debugText (x : Precedence) : String :=
  "Precedence \x7b aspect_order: " ++ x.aspectOrder.debugText
    ++ ", aspect_seq: " ++ toString x.aspectSeq
    ++ ", advice_order: " ++ x.adviceOrder.debugText
    ++ ", advice_seq: " ++ toString x.adviceSeq ++ " \x7d"

end Precedence

end AspectWeaving
