import AspectWeaving.Precedence
import Mathlib.Data.Prod.Lex
import Mathlib.Data.Int.Order.Basic

/-! The order of advices is a linear one: places compare by what comes first in them. -/

namespace AspectWeaving

namespace Order

/-- The wish as a pair that compares by its first part and then by the number. -/
def rank : Order → ℕ ×ₗ ℤ
  | .highest => toLex (0, 0)
  | .value n => toLex (1, n)
  | .lowest => toLex (2, 0)

/-- No two wishes have one rank. -/
theorem rank_injective : Function.Injective rank := by
  intro x y same
  -- The numbers of the highest and the lowest wish do not matter.
  cases x <;> cases y <;> simp_all [rank]

/-- One wish comes before another exactly if its rank is lower. -/
theorem before_iff {x y : Order} : x.before y = true ↔ x.rank < y.rank := by
  -- The first parts decide unless both wishes have a number.
  cases x <;> cases y <;> simp [before, rank, Prod.Lex.toLex_lt_toLex]

end Order

namespace Precedence

/-- The place as a tuple that compares by its parts from the first to the last. -/
def rank (place : Precedence) : (ℕ ×ₗ ℤ) ×ₗ ℕ ×ₗ (ℕ ×ₗ ℤ) ×ₗ ℕ :=
  toLex (place.aspectOrder.rank,
    toLex (place.aspectSeq, toLex (place.adviceOrder.rank, place.adviceSeq)))

/-- No two places have one rank. -/
theorem rank_injective : Function.Injective rank := by
  -- All parts can be read off the rank, the orders through their own ranks.
  intro x y same
  simp only [rank, EmbeddingLike.apply_eq_iff_eq, Prod.mk.injEq] at same
  obtain ⟨orders, seqs, wishes, positions⟩ := same
  cases x
  cases y
  simp_all [Order.rank_injective.eq_iff]

/-- One place comes before another exactly if its rank is lower. -/
theorem before_iff {x y : Precedence} : x.before y = true ↔ x.rank < y.rank := by
  -- Both compare the parts one after the other.
  simp only [before, rank, Prod.Lex.toLex_lt_toLex, Bool.or_eq_true, Bool.and_eq_true,
    beq_iff_eq, decide_eq_true_eq, Order.before_iff, Order.rank_injective.eq_iff]

/-- No place comes before itself. -/
theorem before_irrefl (x : Precedence) : ¬ x.before x = true := by
  -- No rank is less than itself.
  rw [before_iff]
  exact lt_irrefl _

/-- Of two places not each comes before the other. -/
theorem before_asymm {x y : Precedence} (first : x.before y = true) : ¬ y.before x = true := by
  -- Ranks are in a linear order.
  rw [before_iff] at first ⊢
  exact first.asymm

/-- One place is another or comes before it exactly if its rank is not higher. -/
theorem le_iff {x y : Precedence} : x.le y = true ↔ x.rank ≤ y.rank := by
  -- The order of ranks is linear, so that not being behind is being before or equal.
  rw [le, Bool.not_eq_true', ← not_lt, ← before_iff, Bool.not_eq_true]

/-- Of two places one is not behind the other. -/
theorem le_total (x y : Precedence) : (x.le y || y.le x) = true := by
  -- Ranks are in a linear order.
  simp only [Bool.or_eq_true, le_iff]
  exact LinearOrder.le_total _ _

/-- Being not behind carries over. -/
theorem le_trans {x y z : Precedence} (first : x.le y = true) (second : y.le z = true) :
    x.le z = true := by
  -- Ranks are in a linear order.
  rw [le_iff] at *
  exact first.trans second

/-- Of two different places the one that is not behind comes first. -/
theorem before_of_le {x y : Precedence} (notBehind : x.le y = true) (different : x ≠ y) :
    x.before y = true := by
  -- Different precedences have different ranks.
  rw [le_iff] at notBehind
  rw [before_iff]
  exact lt_of_le_of_ne notBehind (rank_injective.ne different)

end Precedence

end AspectWeaving
