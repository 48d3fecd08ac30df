import AspectWeaving.Engine.Layers

/-! Compiling, linking and executing plans. -/

namespace AspectWeaving

variable {β τ : Type}

/-- What the first compile advice of a plan sees. -/
def Plan.compileContext (plan : Plan β) (natural : Option (Symbol β)) : CompileContext β :=
  ⟨plan.target, plan.annotations, natural⟩

namespace Engine

/-- Runs compile advices, each on the context that those before it have left. -/
def runCompileAdvices (engine : Engine β τ) (plan : Plan β) :
    List (Advice β) → CompileContext β → Run β τ (Except ExecutionError (Option (Symbol β)))
  | [], context => return .ok context.symbol
  | advice :: rest, context => do
    let (returned, left) ← engine.runAction (engine.host.compile advice.body context)
    match returned with
    | .error error => return .error error
    -- Without a replacement the symbol is what the advice has left in its context.
    | .ok none => runCompileAdvices engine plan rest left
    | .ok (some replacement) =>
      if plan.joinpoint.accepts replacement then
        runCompileAdvices engine plan rest { left with symbol := some replacement }
      else
        return .error (.advice (.incompatibleSymbol advice.key plan.target.label
          plan.joinpoint.symbolKind replacement.kind))

/-- The symbol that compiling a plan from a natural one gives. -/
def compileFrom (engine : Engine β τ) (plan : Plan β) (natural : Option (Symbol β)) :
    Run β τ (Except ExecutionError (Symbol β)) := do
  match ← engine.runCompileAdvices plan (plan.ofPhase .compile) (plan.compileContext natural) with
  | .error error => return .error error
  -- An abstract member must get its symbol from an advice.
  | .ok none => return .error (.weaving (.missingSymbol plan.target.label))
  | .ok (some symbol) => return .ok symbol

/-- Applies a change to what a plan was compiled and linked to. -/
def modifyPlan (id : PlanId) (change : PlanState β → PlanState β) : Run β τ Unit :=
  modifyWorld fun world => { world with plans := world.plans.modify id.number change }

/-- The symbol of a plan; the first that compiling gives is kept. -/
def compile (engine : Engine β τ) (id : PlanId) (natural : Option (Symbol β)) :
    Run β τ (Except ExecutionError (Symbol β)) := do
  let state ← find fun world => world.plan? id
  match state.compiled with
  | some symbol => return .ok symbol
  | none =>
    match ← engine.compileFrom state.plan natural with
    | .error error => return .error error
    | .ok symbol =>
      -- A compile advice may have compiled the plan meanwhile.
      let kept := (← find fun world => world.plan? id).compiled.getD symbol
      modifyPlan id fun state => { state with compiled := some kept }
      return .ok kept

/-- The core of a plan; the first that linking gives is kept. -/
def link (engine : Engine β τ) (id : PlanId) (natural : Option (Symbol β)) :
    Run β τ (Except ExecutionError (Core β)) := do
  let state ← find fun world => world.plan? id
  match state.linked with
  | some core => return .ok core
  | none =>
    match ← engine.compile id natural with
    | .error error => return .error error
    | .ok symbol =>
      match state.plan.joinpoint.link symbol state.plan.target.label with
      | .error fault => return .error (.weaving fault)
      | .ok core =>
        -- The plan may have been linked meanwhile as well.
        let kept := (← find fun world => world.plan? id).linked.getD core
        modifyPlan id fun state => { state with linked := some kept }
        return .ok kept

/-- Executes a plan on an instance and arguments. -/
def execute (engine : Engine β τ) (id : PlanId) (natural : Option (Symbol β))
    (receiver : Option InstanceId) (args : List Value) :
    Run β τ (Except ExecutionError Value) := do
  match ← engine.link id natural with
  | .error error => return .error error
  | .ok core =>
    let plan := (← find fun world => world.plan? id).plan
    let invocation := Invocation.begin plan.target plan.annotations receiver args
    let (result, _) ← (engine.runPhases plan core).run invocation
    return result

/-- Runs the natural symbol of a slot, without plan and advices. -/
def executeNatural (engine : Engine β τ) (slot : Slot β) (joinpoint : Joinpoint)
    (receiver : Option InstanceId) (args : List Value) :
    Run β τ (Except ExecutionError Value) := do
  match slot.natural with
  | none => return .error (.weaving (.missingSymbol slot.target.label))
  | some symbol =>
    match joinpoint.link symbol slot.target.label with
    | .error fault => return .error (.weaving fault)
    | .ok core =>
      -- No annotations are looked up if nothing can see them.
      let invocation := Invocation.begin slot.target [] receiver args
      engine.runCore core invocation.context

/-- Uses a slot: through its plan, or without advices if the weaver is not enabled. -/
def executeSlot (engine : Engine β τ) (slot : Slot β) (joinpoint : Joinpoint)
    (receiver : Option InstanceId) (args : List Value) :
    Run β τ (Except ExecutionError Value) := do
  if (← getWorld).weaver.config.enabled then
    let id ← onWorld fun world => world.planFor slot.target joinpoint
    engine.execute id slot.natural receiver args
  else engine.executeNatural slot joinpoint receiver args

end Engine

end AspectWeaving
