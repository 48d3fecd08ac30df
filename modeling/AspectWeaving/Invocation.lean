import AspectWeaving.Annotations.Basic
import AspectWeaving.Dictionary
import AspectWeaving.Error

/-! Invocations: one use of an element, from the first advice to the last. -/

namespace AspectWeaving

/-- What runtime advices see of an invocation and may change. -/
structure AdviceContext (β : Type) where
  /-- The element that errors of the invocation are told of. -/
  target : Target
  annotations : List (Decoration β)
  receiver : Option InstanceId
  args : List Value
  value : Value
  data : Dictionary String Value

/-- An invocation under way; only its context is for advices to change. -/
structure Invocation (β : Type) where
  context : AdviceContext β
  /-- The error that advices are told of. -/
  error : Option ExecutionError
  /-- The layer that proceeding runs, counted from the outermost. -/
  joinpoint : Option Nat

namespace Invocation

variable {β : Type}

/-- An invocation that nothing has happened to yet. -/
def begin (target : Target) (annotations : List (Decoration β)) (receiver : Option InstanceId)
    (args : List Value) : Invocation β :=
  { context := { target, annotations, receiver, args, value := .null, data := Dictionary.empty }
    error := none
    joinpoint := none }

/-- The invocation with the end of its layers in it, for the after advices to see. -/
def settle (invocation : Invocation β) : Except ExecutionError Value → Invocation β
  | .ok value => { invocation with context := { invocation.context with value } }
  | .error error => { invocation with error := some error }

/-- The end of an invocation as it stands: its error, or else its value. -/
def outcome (invocation : Invocation β) : Except ExecutionError Value :=
  match invocation.error with
  | some error => .error error
  | none => .ok invocation.context.value

end Invocation

end AspectWeaving
