/-! The numbers by which classes, instances and execution plans are known. -/

namespace AspectWeaving

/-- A class, by the arena slot that it occupies. -/
structure ClassId where
  number : Nat
deriving DecidableEq, Repr, Inhabited

/-- A woven class, by the order in which the classes were woven. -/
structure WovenId where
  number : Nat
deriving DecidableEq, Repr, Inhabited

/-- An instance, by the order in which the instances were made. -/
structure InstanceId where
  number : Nat
deriving DecidableEq, Repr, Inhabited

/-- An execution plan, by the order in which the plans were built. -/
structure PlanId where
  number : Nat
deriving DecidableEq, Repr, Inhabited

end AspectWeaving
