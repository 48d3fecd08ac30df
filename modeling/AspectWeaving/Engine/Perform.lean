import AspectWeaving.Engine.Building

/-! Carrying out commands, with a budget for commands inside commands. -/

namespace AspectWeaving

namespace Engine

variable {β τ : Type}

/-- Carries out a command; the commands of its bodies are left to the engine. -/
def answer (engine : Engine β τ) : (command : Command β) → Run β τ command.Answer
  | .instantiate woven args => engine.instantiate woven args
  | .call receiver method args => engine.call receiver method args
  | .get receiver property => engine.get receiver property
  | .set receiver property value => engine.set receiver property value
  | .setField receiver name value => modifyWorld fun world => world.setField receiver name value
  | .plan woven joinpoint member => planOf woven joinpoint member
  | .compile plan natural => engine.compile plan natural
  | .execute plan natural receiver args => engine.execute plan natural receiver args
  | .declare annotation => onReflection fun reflection => reflection.declare annotation
  | .register definition => onReflection fun reflection => reflection.registerClass definition
  | .discard id => onReflection fun reflection => ((), reflection.discardClass id)
  | .weave id => weave id
  | .build blueprint => pinning (engine.build blueprint)
  | .resolve element => onReflection fun reflection => reflection.resolve element
  | .locate value => locate value
  | .check element application => pinning (engine.check element application)
  | .annotate element application => pinning (engine.annotate element application)
  | .decorate element application => pinning (engine.decorate element application)
  | .enable declaration => onWorld fun world =>
      let (result, weaver) := world.weaver.enable declaration
      (result, { world with weaver })
  | .disable id => onWorld fun world =>
      let (enabled, weaver) := world.weaver.disable id
      (enabled, { world with weaver })
  | .reset => modifyWorld fun world => world.changeWeaver Weaver.reset
  | .release => modifyWorld fun world => { world with held := false }
  | .pin => modifyWorld World.pin
  | .unpin => modifyWorld World.unpin

end Engine

namespace Host

variable {β τ α : Type}

/-- Carries out commands nested no deeper than a budget. -/
def perform (host : Host β τ) : Nat → (command : Command β) → Run β τ command.Answer
  | 0, _ => failure
  | budget + 1, command => Engine.answer ⟨host, perform host budget⟩ command

/-- The engine whose commands may be nested as deep as a budget. -/
def engine (host : Host β τ) (budget : Nat) : Engine β τ := ⟨host, host.perform budget⟩

/-- Runs a program from outside, such as a step of a session. -/
def run (host : Host β τ) (budget : Nat) (action : Action β τ α) : Run β τ α :=
  (host.engine budget).runAction action

end Host

end AspectWeaving
