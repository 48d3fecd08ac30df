import AspectWeaving.Command
import AspectWeaving.Invocation
import AspectWeaving.Program

/-! Hosts: what the codes for bodies mean, as programs over a world and the host's own state. -/

namespace AspectWeaving

/-- The world and the host's own state. -/
structure State (β τ : Type) where
  world : World β
  host : τ

/-- What any body may ask: to look, to change the host's state, or to have a command carried out. -/
inductive Request (β τ : Type) where
  | inspect
  | store (host : τ)
  | perform (command : Command β)

/-- What a request is answered with. -/
@[reducible]
def Request.Answer {β τ : Type} : Request β τ → Type
  | .inspect => State β τ
  | .store _ => Unit
  | .perform command => command.Answer

/-- A program that a body runs. -/
abbrev Action (β τ : Type) : Type → Type := Program (Request β τ) Request.Answer

/-- What a runtime advice may ask beyond other bodies: to proceed, with the context as it has it. -/
inductive AdviceRequest (β τ : Type) where
  | plain (request : Request β τ)
  | proceed (context : AdviceContext β)

/-- What such a request is answered with; proceeding shows how it ended and what it left. -/
@[reducible]
def AdviceRequest.Answer {β τ : Type} : AdviceRequest β τ → Type
  | .plain request => request.Answer
  | .proceed _ => Except ExecutionError Value × Invocation β

/-- A program that a runtime advice runs. -/
abbrev AdviceAction (β τ : Type) : Type → Type :=
  Program (AdviceRequest β τ) AdviceRequest.Answer

/-- What a compile advice sees and may change. -/
structure CompileContext (β : Type) where
  target : Target
  annotations : List (Decoration β)
  symbol : Option (Symbol β)

/-- The meaning of codes, by the use that is made of them. -/
structure Host (β τ : Type) where
  initializer : β → InstanceId → List Value → Action β τ (Except ExecutionError Unit)
  method : β → InstanceId → List Value → Action β τ (Except ExecutionError Value)
  getter : β → InstanceId → Action β τ (Except ExecutionError Value)
  setter : β → InstanceId → Value → Action β τ (Except ExecutionError Unit)
  stub : β → Target → List Value → Action β τ (Except AspectError Unit)
  /-- Gives the symbol that the advice returns, and the context as it leaves it. -/
  compile : β → CompileContext β →
    Action β τ (Except ExecutionError (Option (Symbol β)) × CompileContext β)
  /-- Gives the value that the advice returns, and the context as it leaves it. -/
  advice : β → Invocation β →
    AdviceAction β τ (Except ExecutionError (Option Value) × AdviceContext β)

end AspectWeaving
