import AspectWeaving.Advice.Index
import AspectWeaving.Joinpoint
import AspectWeaving.Reflection

/-! Execution plans: the advices that apply to one use of one element, in their order. -/

namespace AspectWeaving

/-- What the advices of a joinpoint are chosen by: its name and the annotations that it shows. -/
structure Surroundings (β : Type) where
  name : String
  element : List (Decoration β)
  parameters : List (Decoration β)

namespace Surroundings

variable {β : Type}

/-- What an element shows at a joinpoint; a call shows its parameters as well. -/
def ofTarget (reflection : Reflection β) (target : Target) (joinpoint : Joinpoint) :
    Surroundings β :=
  let bundle := reflection.bundle target.owner.id
  { name := target.name
    element := bundle.allAt target.location true
    parameters :=
      match joinpoint with
      -- Only a call shows what the parameters of its method bear.
      | .call => (bundle.ofKind .parameter none).filter fun decoration =>
          decoration.target.name == target.name
      | _ => [] }

/-- The references of the element's own annotations. -/
def elementReferences (shown : Surroundings β) : List AnnotationRef :=
  shown.element.map Decoration.reference

/-- The references of the parameters' annotations. -/
def parameterReferences (shown : Surroundings β) : List AnnotationRef :=
  shown.parameters.map Decoration.reference

/-- The references of all annotations shown. -/
def references (shown : Surroundings β) : List AnnotationRef :=
  shown.elementReferences ++ shown.parameterReferences

/-- Whether an expression selects a joinpoint with these surroundings. -/
def selectedBy (shown : Surroundings β) (joinpoint : Joinpoint)
    (expression : Pointcut.Expression) : Bool :=
  match expression.scope with
  | .parameter =>
    joinpoint == .call && !shown.parameterReferences.isEmpty
      && expression.selects .parameter shown.name shown.parameterReferences
  | .any => expression.selects joinpoint.scope shown.name shown.references
  | scope =>
    scope == joinpoint.scope && expression.selects scope shown.name shown.elementReferences

end Surroundings

/-- A plan: the element and its use, the annotations shown, and the advices by precedence. -/
structure Plan (β : Type) where
  target : Target
  joinpoint : Joinpoint
  annotations : List (Decoration β)
  advices : List (Advice β)

namespace Plan

variable {β : Type}

/-- The advices of a phase, in their order. -/
def ofPhase (plan : Plan β) (phase : Phase) : List (Advice β) :=
  plan.advices.filter fun advice => advice.phase == phase

/-- Whether nothing is woven in. -/
def isEmpty (plan : Plan β) : Bool := plan.advices.isEmpty

/-- The plan for an element as it is decorated now, from the advices indexed now. -/
def build (reflection : Reflection β) (index : AdviceIndex β) (target : Target)
    (joinpoint : Joinpoint) : Plan β :=
  let shown := Surroundings.ofTarget reflection target joinpoint
  -- The index narrows the advices down; the pointcuts have the last word.
  let candidates := Phase.all.flatMap fun phase =>
    index.candidates phase joinpoint.scopes shown.references
  let selected := candidates.filter fun advice =>
    shown.selectedBy joinpoint advice.pointcut.expression
  { target, joinpoint
    annotations := shown.element ++ shown.parameters
    -- Places are distinct, so that the order does not depend on the sorting.
    advices := selected.mergeSort fun x y => x.precedence.le y.precedence }

/-- The debug text of a plan. -/
def debugText (plan : Plan β) : String :=
  let keys (phase : Phase) : String :=
    Text.bracketed ((plan.ofPhase phase).map fun advice => Text.quoted advice.key)
  "ExecutionPlan \x7b target: " ++ plan.target.debugText ++ ", compile: " ++ keys .compile
    ++ ", before: " ++ keys .before ++ ", around: " ++ keys .around
    ++ ", after_return: " ++ keys .afterReturn ++ ", after_throw: " ++ keys .afterThrow
    ++ ", after: " ++ keys .after ++ " \x7d"

end Plan

/-- A plan in use: the symbol that it was compiled to, and the core that this was linked to. -/
structure PlanState (β : Type) where
  plan : Plan β
  compiled : Option (Symbol β)
  linked : Option (Core β)

/-- A plan not used yet. -/
def PlanState.fresh {β : Type} (plan : Plan β) : PlanState β := ⟨plan, none, none⟩

end AspectWeaving
