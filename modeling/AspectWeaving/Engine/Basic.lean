import AspectWeaving.Host

/-! Running bodies: what serves their requests. -/

namespace AspectWeaving

/-- A run on the state; it has no result if the budget for nested commands is used up. -/
abbrev Run (β τ : Type) : Type → Type := StateT (State β τ) Option

/-- A host, and the way in which commands are carried out for its bodies. -/
structure Engine (β τ : Type) where
  host : Host β τ
  perform : (command : Command β) → Run β τ command.Answer

namespace Engine

variable {β τ α : Type}

/-- The world of a run. -/
def getWorld : Run β τ (World β) := return (← get).world

/-- Changes the world of a run. -/
def modifyWorld (change : World β → World β) : Run β τ Unit :=
  modify fun state => { state with world := change state.world }

/-- Carries out a step on the world and gives its result. -/
def onWorld (step : World β → α × World β) : Run β τ α :=
  modifyGet fun state =>
    let (result, world) := step state.world
    (result, { state with world })

/-- Looks something up that an identity stands for; no run gives out an identity without it. -/
def find (lookUp : World β → Option α) : Run β τ α := do
  match lookUp (← getWorld) with
  | some found => return found
  | none => failure

/-- Answers a request of a body. -/
def serve (engine : Engine β τ) : (request : Request β τ) → Run β τ request.Answer
  | .inspect => get
  | .store host => modify fun state => { state with host }
  | .perform command => engine.perform command

/-- Runs the program of a body. -/
def runAction (engine : Engine β τ) (action : Action β τ α) : Run β τ α :=
  action.run engine.serve

/-- Runs the bodies of a constructor on one instance, up to the first failure. -/
def runChain (engine : Engine β τ) (receiver : InstanceId) (args : List Value) :
    List β → Run β τ (Except ExecutionError Unit)
  | [] => return .ok ()
  | code :: rest => do
    match ← engine.runAction (engine.host.initializer code receiver args) with
    | .error error => return .error error
    | .ok () => runChain engine receiver args rest

/-- Reads a property of an instance. -/
def read (engine : Engine β τ) (access : Access β) (receiver : InstanceId) :
    Run β τ (Except ExecutionError Value) :=
  match access with
  | .field name => return .ok ((← getWorld).field receiver name)
  | .body code => engine.runAction (engine.host.getter code receiver)

/-- Writes a property of an instance. -/
def write (engine : Engine β τ) (access : Access β) (receiver : InstanceId) (value : Value) :
    Run β τ (Except ExecutionError Unit) :=
  match access with
  | .field name => do
    modifyWorld fun world => world.setField receiver name value
    return .ok ()
  | .body code => engine.runAction (engine.host.setter code receiver value)

/-- Runs the core of a joinpoint on the instance and the arguments of a context. -/
def runCore (engine : Engine β τ) (core : Core β) (context : AdviceContext β) :
    Run β τ (Except ExecutionError Value) := do
  match context.receiver with
  | none => return .error (.weaving (.missingInstance context.target.label))
  | some receiver =>
    match core with
    | .construct chain =>
      let result ← engine.runChain receiver context.args chain
      return result.map fun _ => .object receiver
    | .call code => engine.runAction (engine.host.method code receiver context.args)
    | .read access => engine.read access receiver
    | .write access =>
      let result ← engine.write access receiver (context.args.headD .null)
      return result.map fun _ => .null

end Engine

end AspectWeaving
