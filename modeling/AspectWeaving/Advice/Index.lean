import AspectWeaving.Advice.Basic
import AspectWeaving.Dictionary
import AspectWeaving.Distinct

/-! The advices of the enabled aspects, indexed by phase, scope and annotation. -/

namespace AspectWeaving

/-- Where an advice is looked for; without an annotation, among those that require none. -/
structure AdviceKey where
  phase : Phase
  scope : Pointcut.Scope
  required : Option AnnotationRef
deriving DecidableEq, Repr

/-- The keys that an advice is listed under, one for each annotation that it asks for. -/
def Advice.keys {β : Type} (advice : Advice β) : List AdviceKey :=
  let expression := advice.pointcut.expression
  let required :=
    if expression.annotations.isEmpty then [none] else expression.annotations.map some
  required.map fun reference => ⟨advice.phase, expression.scope, reference⟩

/-- The advices under their keys, and those of each aspect in the order of its declaration. -/
structure AdviceIndex (β : Type) where
  byKey : Dictionary AdviceKey (List (Advice β))
  byAspect : Dictionary String (List (Advice β))

namespace AdviceIndex

variable {β : Type}

/-- The index without advices. -/
def empty : AdviceIndex β := ⟨Dictionary.empty, Dictionary.empty⟩

/-- Lists an advice under its keys and its aspect. -/
def register (index : AdviceIndex β) (advice : Advice β) : AdviceIndex β where
  byKey := advice.keys.foldl
    (fun listed key => listed.update key fun known => known.getD [] ++ [advice]) index.byKey
  byAspect := index.byAspect.update advice.aspectId fun known => known.getD [] ++ [advice]

/-- Drops the advices of an aspect. -/
def unregister (index : AdviceIndex β) (aspectId : String) : AdviceIndex β :=
  if index.byAspect.contains aspectId then
    { byKey := (index.byKey.mapValues fun known =>
        known.filter fun advice => advice.aspectId ≠ aspectId).filterValues (!·.isEmpty)
      byAspect := index.byAspect.erase aspectId }
  else index

/-- The advices of an aspect. -/
def ofAspect (index : AdviceIndex β) (aspectId : String) : List (Advice β) :=
  (index.byAspect.get? aspectId).getD []

/-- The advices of a phase listed for some scopes and annotations, each once. -/
def candidates (index : AdviceIndex β) (phase : Phase) (scopes : List Pointcut.Scope)
    (annotations : List AnnotationRef) : List (Advice β) :=
  let listed := (scopes ++ [Pointcut.Scope.any]).flatMap fun scope =>
    (none :: annotations.map some).flatMap fun reference =>
      (index.byKey.get? ⟨phase, scope, reference⟩).getD []
  -- No two enabled advices have one precedence.
  distinctBy Advice.precedence listed

end AdviceIndex

end AspectWeaving
