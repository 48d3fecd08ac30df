import AspectWeaving.Engine.Basic

/-! The layers of an invocation: around advices outside, then before advices, core, and what
follows it; after advices run once all layers are done. -/

namespace AspectWeaving

/-- A run that carries the invocation that it is part of. -/
abbrev LayerRun (β τ : Type) : Type → Type := StateT (Invocation β) (Run β τ)

namespace Engine

variable {β τ : Type}

/-- Changes the part of the invocation that advices see. -/
def modifyContext (change : AdviceContext β → AdviceContext β) : LayerRun β τ Unit :=
  modify fun invocation => { invocation with context := change invocation.context }

/-- Puts a value into the context. -/
def setValue (value : Value) : LayerRun β τ Unit :=
  modifyContext fun context => { context with value }

/-- The value in the context. -/
def getValue : LayerRun β τ Value := return (← get).context.value

/-- Puts a layer into the joinpoint slot. -/
def setJoinpoint (layer : Option Nat) : LayerRun β τ Unit :=
  modify fun invocation => { invocation with joinpoint := layer }

/-- Runs the layer in the joinpoint slot, of those within reach, and leaves the slot as it was. -/
def proceed (reachable : Nat → Option (LayerRun β τ (Except ExecutionError Value))) :
    LayerRun β τ (Except ExecutionError Value) := do
  let invocation ← get
  match invocation.joinpoint.bind reachable with
  | none => return .error (.advice (.joinpointUnavailable invocation.context.target.label))
  | some layer =>
    let result ← layer
    -- Inner layers have put their own into the slot.
    setJoinpoint invocation.joinpoint
    return result

/-- Answers a request of a runtime advice. -/
def serveAdvice (engine : Engine β τ)
    (reachable : Nat → Option (LayerRun β τ (Except ExecutionError Value))) :
    (request : AdviceRequest β τ) → LayerRun β τ request.Answer
  | .plain request => StateT.lift (engine.serve request)
  | .proceed context => do
    -- The layers inside see the context as the advice has left it.
    modifyContext fun _ => context
    let result ← proceed reachable
    return (result, ← get)

/-- Calls a runtime advice from which some layers are within reach. -/
def callAdvice (engine : Engine β τ) (advice : Advice β)
    (reachable : Nat → Option (LayerRun β τ (Except ExecutionError Value))) :
    LayerRun β τ (Except ExecutionError (Option Value)) := do
  let action := engine.host.advice advice.body (← get)
  let (result, context) ← action.run (engine.serveAdvice reachable)
  -- Whatever the advice has made of the context stays, even if it failed.
  modifyContext fun _ => context
  return result

/-- No layer is within reach of an advice that is not around one. -/
def nowhere : Nat → Option (LayerRun β τ (Except ExecutionError Value)) := fun _ => none

/-- Calls advices that must not return a value, up to the first failure. -/
def runObservers (engine : Engine β τ) (label : String) :
    List (Advice β) → LayerRun β τ (Except ExecutionError Unit)
  | [] => return .ok ()
  | advice :: rest => do
    match ← engine.callAdvice advice nowhere with
    | .error error => return .error error
    -- These advices only look on.
    | .ok (some _) => return .error (.advice (.unexpectedReturn advice.phase advice.key label))
    | .ok none => runObservers engine label rest

/-- Takes a value that an advice returned in place of the present one, if the joinpoint lets it. -/
def substitute (plan : Plan β) (advice : Advice β) (value : Value) :
    LayerRun β τ (Except ExecutionError Unit) := do
  match plan.joinpoint.checkValue advice.phase advice.key plan.target.label value with
  | .error breach => return .error (.advice breach)
  | .ok () =>
    setValue value
    return .ok ()

/-- Calls advices that may replace the value, up to the first failure, and gives the last value. -/
def runSubstitutes (engine : Engine β τ) (plan : Plan β) :
    List (Advice β) → LayerRun β τ (Except ExecutionError Value)
  | [] => return .ok (← getValue)
  | advice :: rest => do
    match ← engine.callAdvice advice nowhere with
    | .error error => return .error error
    | .ok none => runSubstitutes engine plan rest
    | .ok (some value) =>
      match ← substitute plan advice value with
      | .error error => return .error error
      | .ok () => runSubstitutes engine plan rest

/-- Lets the after-throw advices handle an error; the context holds it only meanwhile. -/
def handleError (engine : Engine β τ) (plan : Plan β) (error : ExecutionError) :
    LayerRun β τ (Except ExecutionError Value) := do
  modify fun invocation => { invocation with error := some error }
  -- What the core would have returned is not known.
  setValue .null
  let handled ← engine.runSubstitutes plan (plan.ofPhase .afterThrow)
  modify fun invocation => { invocation with error := none }
  return handled

/-- The innermost layer: before advices, the core, and the advices that follow how it ended. -/
def runInnermost (engine : Engine β τ) (plan : Plan β) (core : Core β) :
    LayerRun β τ (Except ExecutionError Value) := do
  match ← engine.runObservers plan.target.label (plan.ofPhase .before) with
  | .error error => return .error error
  | .ok () =>
    let context := (← get).context
    match ← StateT.lift (engine.runCore core context) with
    | .ok value =>
      setValue value
      engine.runSubstitutes plan (plan.ofPhase .afterReturn)
    | .error error =>
      -- Fatal errors are not for advices to handle.
      if error.isFatal || (plan.ofPhase .afterThrow).isEmpty then return .error error
      else engine.handleError plan error

/-- Runs a layer: the given around advices, outermost first, and the innermost layer inside. -/
def runLayer (engine : Engine β τ) (plan : Plan β) (core : Core β) :
    Nat → List (Advice β) → LayerRun β τ (Except ExecutionError Value)
  | _, [] => do
    -- The innermost layer has nothing to proceed to.
    let outer := (← get).joinpoint
    setJoinpoint none
    let result ← engine.runInnermost plan core
    setJoinpoint outer
    return result
  | level, advice :: inner => do
    let outer := (← get).joinpoint
    setJoinpoint (some (level + 1))
    -- The layer inside is the only one that this advice can proceed to.
    let returned ← engine.callAdvice advice fun layer =>
      if layer = level + 1 then some (runLayer engine plan core (level + 1) inner) else none
    setJoinpoint outer
    match returned with
    | .error error => return .error error
    | .ok none => return .ok (← getValue)
    | .ok (some value) =>
      match ← substitute plan advice value with
      | .error error => return .error error
      | .ok () => return .ok (← getValue)

/-- Runs all layers: of the around advices, the last by precedence is outermost. -/
def runLayers (engine : Engine β τ) (plan : Plan β) (core : Core β) :
    LayerRun β τ (Except ExecutionError Value) :=
  engine.runLayer plan core 0 (plan.ofPhase .around).reverse

/-- Runs the layers and then the after advices, whose failure or value is the end of it. -/
def runPhases (engine : Engine β τ) (plan : Plan β) (core : Core β) :
    LayerRun β τ (Except ExecutionError Value) := do
  let result ← engine.runLayers plan core
  if (plan.ofPhase .after).isEmpty then return result
  -- The after advices see how the layers ended.
  modify fun invocation => invocation.settle result
  match ← engine.runObservers plan.target.label (plan.ofPhase .after) with
  | .error error => return .error error
  | .ok () => return (← get).outcome

end Engine

end AspectWeaving
