import AspectWeaving.Dictionary
import AspectWeaving.Identity
import AspectWeaving.Joinpoint

/-! The memo of built plans, which is given up when something that they depend on has changed. -/

namespace AspectWeaving

/-- The plans by target reference and joinpoint, and whether they may be out of date. -/
structure PlanMemo where
  plans : Dictionary (String × Joinpoint) PlanId
  stale : Bool

namespace PlanMemo

/-- The memo without plans. -/
def empty : PlanMemo := ⟨Dictionary.empty, false⟩

/-- Marks the plans as out of date; the next look-up drops them. -/
def invalidate (memo : PlanMemo) : PlanMemo := { memo with stale := true }

/-- The memo as a look-up finds it. -/
def refreshed (memo : PlanMemo) : PlanMemo := if memo.stale then empty else memo

/-- The plan remembered for a target and a joinpoint. -/
def get? (memo : PlanMemo) (reference : String) (joinpoint : Joinpoint) : Option PlanId :=
  memo.plans.get? (reference, joinpoint)

/-- Remembers a plan. -/
def remember (memo : PlanMemo) (reference : String) (joinpoint : Joinpoint) (id : PlanId) :
    PlanMemo :=
  { memo with plans := memo.plans.insert (reference, joinpoint) id }

end PlanMemo

end AspectWeaving
