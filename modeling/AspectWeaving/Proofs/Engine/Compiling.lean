import AspectWeaving.Proofs.Engine.Linking
import AspectWeaving.Proofs.Engine.Persistence
import AspectWeaving.Proofs.Plan.Scan

/-! Compiling happens once: the attempts to compile a plan up to the first that succeeds, and what
every use of the plan runs from then on. -/

namespace AspectWeaving

variable {β τ α : Type}

/-- A use of a plan that passes a natural symbol. -/
inductive PlanUse (β : Type) where
  | compile (natural : Option (Symbol β))
  | execute (natural : Option (Symbol β)) (receiver : Option InstanceId) (args : List Value)

namespace PlanUse

/-- The natural symbol that a use passes. -/
def natural : PlanUse β → Option (Symbol β)
  | .compile natural | .execute natural _ _ => natural

/-- What a use ends with: the symbol of the plan, or the value of an execution. -/
@[reducible]
def Answer : PlanUse β → Type
  | .compile _ => Except ExecutionError (Symbol β)
  | .execute _ _ _ => Except ExecutionError Value

/-- The answer of a use that fails. -/
def failure (error : ExecutionError) : (use : PlanUse β) → use.Answer
  | .compile _ | .execute _ _ _ => .error error

end PlanUse

/-- A use that has ended: the states before and after it, and its answer. -/
structure PlanUsed (β τ : Type) where
  use : PlanUse β
  start : State β τ
  answer : use.Answer
  finish : State β τ

/-- A plan that has been compiled to a symbol, and linked to nothing but what the symbol links to.
-/
def World.CompiledTo (world : World β) (id : PlanId) (plan : Plan β) (symbol : Symbol β) : Prop :=
  ∃ state, world.plan? id = some state ∧ state.plan = plan ∧ state.compiled = some symbol ∧
    ∀ core, state.linked = some core →
      plan.joinpoint.link symbol plan.target.label = .ok core

/-- The state with the symbol that a plan has been compiled to. -/
def State.keepSymbol (state : State β τ) (id : PlanId) (symbol : Symbol β) : State β τ :=
  { state with world := { state.world with
    plans := state.world.plans.modify id.number fun plan =>
      { plan with compiled := some symbol } } }

/-- The state with the core that a plan has been linked to. -/
def State.keepCore (state : State β τ) (id : PlanId) (core : Core β) : State β τ :=
  { state with world := { state.world with
    plans := state.world.plans.modify id.number fun plan =>
      { plan with linked := some core } } }

namespace Engine

/-- Uses a plan. -/
def use (engine : Engine β τ) (id : PlanId) : (use : PlanUse β) → Run β τ use.Answer
  | .compile natural => engine.compile id natural
  | .execute natural receiver args => engine.execute id natural receiver args

/-- Uses of a plan one after the other. -/
inductive UsedInTurn (engine : Engine β τ) (id : PlanId) :
    State β τ → List (PlanUsed β τ) → State β τ → Prop where
  | nil {start} : UsedInTurn engine id start [] start
  | cons {start use answer between rest finish}
      (ran : (engine.use id use).run start = some (answer, between))
      (others : UsedInTurn engine id between rest finish) :
      UsedInTurn engine id start (⟨use, start, answer, between⟩ :: rest) finish

/-- Compile advices in turn, each on the context that those before it have left, up to the first
that fails or gives a symbol that the joinpoint does not accept. The last symbol is the end. -/
inductive CompileTurns (engine : Engine β τ) (plan : Plan β) :
    List (Advice β) → CompileContext β → State β τ →
      Except ExecutionError (Option (Symbol β)) → State β τ → Prop where
  | nil {context start} : CompileTurns engine plan [] context start (.ok context.symbol) start
  | failed {advice rest context start error left finish}
      (ran : (engine.runAction (engine.host.compile advice.body context)).run start =
        some ((.error error, left), finish)) :
      CompileTurns engine plan (advice :: rest) context start (.error error) finish
  | kept {advice rest context start left between ended finish}
      (ran : (engine.runAction (engine.host.compile advice.body context)).run start =
        some ((.ok none, left), between))
      (others : CompileTurns engine plan rest left between ended finish) :
      CompileTurns engine plan (advice :: rest) context start ended finish
  | replaced {advice rest context start replacement left between ended finish}
      (ran : (engine.runAction (engine.host.compile advice.body context)).run start =
        some ((.ok (some replacement), left), between))
      (accepted : plan.joinpoint.accepts replacement = true)
      (others : CompileTurns engine plan rest { left with symbol := some replacement } between
        ended finish) :
      CompileTurns engine plan (advice :: rest) context start ended finish
  | refused {advice rest context start replacement left finish}
      (ran : (engine.runAction (engine.host.compile advice.body context)).run start =
        some ((.ok (some replacement), left), finish))
      (refused : plan.joinpoint.accepts replacement = false) :
      CompileTurns engine plan (advice :: rest) context start
        (.error (.advice (.incompatibleSymbol advice.key plan.target.label
          plan.joinpoint.symbolKind replacement.kind))) finish

/-- A use of a plan that has been compiled to a symbol, from the state that it is compiled in. The
symbol is the answer, or it is linked, and the phases run around the core that it links to; no
compile advice runs, and the natural symbol of the use makes no difference. -/
inductive Serves (engine : Engine β τ) (id : PlanId) (plan : Plan β) (symbol : Symbol β) :
    State β τ → (use : PlanUse β) → use.Answer → State β τ → Prop where
  | compiled {start natural} :
      Serves engine id plan symbol start (.compile natural) (.ok symbol) start
  | unlinked {start natural receiver args fault}
      (fails : plan.joinpoint.link symbol plan.target.label = .error fault) :
      Serves engine id plan symbol start (.execute natural receiver args)
        (.error (.weaving fault)) start
  | executed {start natural receiver args core answer left finish}
      (links : plan.joinpoint.link symbol plan.target.label = .ok core)
      (runs : ((engine.runPhases plan core).run
        (.begin plan.target plan.annotations receiver args)).run (start.keepCore id core) =
          some ((answer, left), finish)) :
      Serves engine id plan symbol start (.execute natural receiver args) answer finish

/-- The compile advices of a plan run and leave an error, or no symbol at all, which is an error
too. -/
def CompilesTo (engine : Engine β τ) (plan : Plan β) (natural : Option (Symbol β))
    (start : State β τ) : Except ExecutionError (Symbol β) → State β τ → Prop
  | .ok symbol, finish =>
    engine.CompileTurns plan (plan.ofPhase .compile) (plan.compileContext natural) start
      (.ok (some symbol)) finish
  | .error error, finish =>
    engine.CompileTurns plan (plan.ofPhase .compile) (plan.compileContext natural) start
        (.error error) finish ∨
      engine.CompileTurns plan (plan.ofPhase .compile) (plan.compileContext natural) start
          (.ok none) finish ∧
        error = .weaving (.missingSymbol plan.target.label)

/-- An attempt that fails: the compile advices have run, from the natural symbol that was passed,
and have left an error, which is the answer; the plan is as it was. -/
def FailsToCompile (engine : Engine β τ) (id : PlanId) (plan : Plan β) (used : PlanUsed β τ) :
    Prop :=
  used.finish.world.plan? id = some (.fresh plan) ∧ ∃ error,
    engine.CompilesTo plan used.use.natural used.start (.error error) used.finish ∧
      used.answer = used.use.failure error

/-- The attempt that succeeds: the compile advices have run, from the natural symbol that was
passed, and have left a symbol, which the plan is compiled to before it is used. -/
def FirstCompiles (engine : Engine β τ) (id : PlanId) (plan : Plan β) (symbol : Symbol β)
    (used : PlanUsed β τ) : Prop :=
  ∃ between, engine.CompilesTo plan used.use.natural used.start (.ok symbol) between ∧
    engine.Serves id plan symbol (between.keepSymbol id symbol) used.use used.answer used.finish

/-- An advice that does not touch a plan while it compiles. -/
def Aloof (engine : Engine β τ) (id : PlanId) (advice : Advice β) : Prop :=
  ∀ ⦃context start result finish⦄,
    (engine.runAction (engine.host.compile advice.body context)).run start = some (result, finish) →
      finish.world.plan? id = start.world.plan? id

variable {engine : Engine β τ} {id : PlanId} {plan : Plan β} {symbol : Symbol β}
  {start finish : State β τ}

/-- Compile advices run in turn. -/
theorem turns_of_runCompileAdvices {advices : List (Advice β)} {context : CompileContext β}
    {ended : Except ExecutionError (Option (Symbol β))}
    (ran : (engine.runCompileAdvices plan advices context).run start = some (ended, finish)) :
    engine.CompileTurns plan advices context start ended finish := by
  -- The induction is on the advices that are still to be run.
  induction advices generalizing context start with
  | nil =>
    obtain ⟨rfl, rfl⟩ := run_pure_eq_some.mp ran
    exact .nil
  | cons advice rest ih =>
    obtain ⟨⟨returned, left⟩, between, compiles, goes⟩ := run_bind_eq_some.mp ran
    -- The advice has failed, or left the symbol that is in its context, or returned another one.
    rcases returned with error | _ | replacement
    · obtain ⟨rfl, rfl⟩ := run_pure_eq_some.mp goes
      exact .failed compiles
    · exact .kept compiles (ih goes)
    · dsimp only at goes
      -- A replacement goes on only if the joinpoint accepts it.
      split at goes
      · next accepted => exact .replaced compiles accepted (ih goes)
      · next refused =>
        obtain ⟨rfl, rfl⟩ := run_pure_eq_some.mp goes
        exact .refused compiles (by simpa using refused)

/-- Advices that do not touch the plan leave it as it is. -/
theorem CompileTurns.plan?_eq {advices : List (Advice β)} {context : CompileContext β}
    {ended : Except ExecutionError (Option (Symbol β))}
    (turns : engine.CompileTurns plan advices context start ended finish)
    (aloof : ∀ advice ∈ advices, engine.Aloof id advice) :
    finish.world.plan? id = start.world.plan? id := by
  -- The induction is on the advices that have run.
  induction turns with
  | nil => rfl
  | failed ran => exact aloof _ List.mem_cons_self ran
  | kept ran others ih | replaced ran _ others ih =>
    -- Neither this advice nor one of the rest touches the plan.
    obtain ⟨first, later⟩ := List.forall_mem_cons.mp aloof
    exact (ih later).trans (first ran)
  | refused ran => exact aloof _ List.mem_cons_self ran

/-- Changing an item of an array to itself changes nothing. -/
theorem modify_eq_self {γ : Type} {items : Array γ} {index : Nat} {item : γ} {change : γ → γ}
    (found : items[index]? = some item) (same : change item = item) :
    items.modify index change = items := by
  apply Array.ext_getElem?
  intro other
  -- Only the item at the index could differ, and it is changed to itself.
  rw [Array.getElem?_modify]
  split
  · next here => simp [← here, found, same]
  · rfl

/-- A plan that is linked to a core already stays as it is. -/
theorem keepCore_eq_self {state : PlanState β} {core : Core β}
    (found : start.world.plan? id = some state) (linked : state.linked = some core) :
    start.keepCore id core = start := by
  -- The core is the one that has been kept already.
  have same : start.world.plans.modify id.number (fun plan => { plan with linked := some core }) =
      start.world.plans := by
    refine modify_eq_self found ?_
    rw [← linked]
  rw [State.keepCore, same]

/-- Compiling a plan that has been compiled gives the symbol and does nothing. -/
theorem compile_of_compiled (compiled : start.world.CompiledTo id plan symbol)
    {natural : Option (Symbol β)} {answer : Except ExecutionError (Symbol β)}
    (ran : (engine.compile id natural).run start = some (answer, finish)) :
    answer = .ok symbol ∧ finish = start := by
  -- What has been kept is found first.
  obtain ⟨state, found, _, held, _⟩ := compiled
  obtain ⟨_, _, looked, goes⟩ := run_bind_eq_some.mp ran
  cases (run_findPlan found).symm.trans looked
  rw [held] at goes
  exact run_pure_eq_some.mp goes

/-- A plan that has been compiled links to what its symbol links to, which is kept. -/
theorem link_of_compiled (compiled : start.world.CompiledTo id plan symbol)
    {natural : Option (Symbol β)} {answer : Except ExecutionError (Core β)}
    (ran : (engine.link id natural).run start = some (answer, finish)) :
    (∃ fault, plan.joinpoint.link symbol plan.target.label = .error fault ∧
        answer = .error (.weaving fault) ∧ finish = start) ∨
      ∃ core, plan.joinpoint.link symbol plan.target.label = .ok core ∧ answer = .ok core ∧
        finish = start.keepCore id core := by
  have once := compiled
  obtain ⟨state, found, rfl, held, sound⟩ := compiled
  obtain ⟨_, _, looked, goes⟩ := run_bind_eq_some.mp ran
  cases (run_findPlan found).symm.trans looked
  cases linked : state.linked with
  | some core =>
    -- A core that was kept before is one that the symbol links to.
    rw [linked] at goes
    obtain ⟨rfl, rfl⟩ := run_pure_eq_some.mp goes
    exact .inr ⟨core, sound core linked, rfl, (keepCore_eq_self found linked).symm⟩
  | none =>
    -- Linking asks for the symbol, which is there without running any advice.
    rw [linked] at goes
    obtain ⟨outcome, between, compiles, ends⟩ := run_bind_eq_some.mp goes
    obtain ⟨rfl, rfl⟩ := compile_of_compiled once compiles
    dsimp only at ends
    -- The symbol has the parts that the joinpoint needs, or lacks them.
    split at ends
    · next fault fails =>
      obtain ⟨rfl, rfl⟩ := run_pure_eq_some.mp ends
      exact .inl ⟨fault, fails, rfl, rfl⟩
    · next core links =>
      obtain ⟨_, _, looked, keeps⟩ := run_bind_eq_some.mp ends
      cases (run_findPlan found).symm.trans looked
      obtain ⟨_, after, kept, last⟩ := run_bind_eq_some.mp keeps
      obtain ⟨rfl, rfl⟩ := run_pure_eq_some.mp last
      rw [linked] at kept ⊢
      exact .inr ⟨core, links, rfl, run_modifyWorld_eq_some.mp kept⟩

/-- A plan stays compiled to its symbol whatever takes nothing back, once it is linked. -/
theorem compiledTo_of_extends {before after : World β} {state : PlanState β} {core : Core β}
    (found : before.plan? id = some state) (same : state.plan = plan)
    (held : state.compiled = some symbol) (linked : state.linked = some core)
    (links : plan.joinpoint.link symbol plan.target.label = .ok core)
    (later : after.Extends before) : after.CompiledTo id plan symbol := by
  -- The core that is linked is not given up, and so there is no other one.
  obtain ⟨last, there, advances⟩ := later.plan found
  refine ⟨last, there, advances.plan.trans same, advances.compiled held, fun other known => ?_⟩
  obtain rfl : core = other := Option.some.inj ((advances.linked linked).symm.trans known)
  exact links

/-- Compiling from a symbol is running the compile advices and looking at what they leave. -/
theorem compilesTo_of_compileFrom {natural : Option (Symbol β)}
    {outcome : Except ExecutionError (Symbol β)}
    (ran : (engine.compileFrom plan natural).run start = some (outcome, finish)) :
    engine.CompilesTo plan natural start outcome finish := by
  obtain ⟨ended, between, advised, last⟩ := run_bind_eq_some.mp ran
  have turns := turns_of_runCompileAdvices advised
  -- The advices have failed, or left no symbol, or left one.
  rcases ended with error | _ | symbol
  · obtain ⟨rfl, rfl⟩ := run_pure_eq_some.mp last
    exact .inl turns
  · obtain ⟨rfl, rfl⟩ := run_pure_eq_some.mp last
    exact .inr ⟨turns, rfl⟩
  · obtain ⟨rfl, rfl⟩ := run_pure_eq_some.mp last
    exact turns

/-- Whatever advices leave that do not touch the plan, they leave it as it is. -/
theorem CompilesTo.plan?_eq {natural : Option (Symbol β)}
    {outcome : Except ExecutionError (Symbol β)}
    (compiles : engine.CompilesTo plan natural start outcome finish)
    (aloof : ∀ advice ∈ plan.ofPhase .compile, engine.Aloof id advice) :
    finish.world.plan? id = start.world.plan? id := by
  cases outcome with
  | ok symbol => exact CompileTurns.plan?_eq compiles aloof
  | error error =>
    -- An error comes from the advices or from their leaving no symbol.
    rcases compiles with turns | ⟨turns, _⟩
    · exact turns.plan?_eq aloof
    · exact turns.plan?_eq aloof

section Fresh

variable (fresh : start.world.plan? id = some (.fresh plan))
  (aloof : ∀ advice ∈ plan.ofPhase .compile, engine.Aloof id advice)
include fresh

/-- A plan that has just been compiled is compiled to the symbol. -/
theorem plan?_keepSymbol (symbol : Symbol β) : (start.keepSymbol id symbol).world.plan? id =
    some { PlanState.fresh plan with compiled := some symbol } := by
  -- The plan is found as it was changed.
  rw [State.keepSymbol, plan?_modify, fresh]
  rfl

include aloof

/-- An attempt to compile a plan runs its compile advices, and a symbol that they leave is kept. -/
theorem compile_of_fresh {natural : Option (Symbol β)} {answer : Except ExecutionError (Symbol β)}
    (ran : (engine.compile id natural).run start = some (answer, finish)) :
    (∃ error, engine.CompilesTo plan natural start (.error error) finish ∧
        answer = .error error) ∨
      ∃ symbol between, engine.CompilesTo plan natural start (.ok symbol) between ∧
        answer = .ok symbol ∧ finish = between.keepSymbol id symbol := by
  obtain ⟨_, _, looked, goes⟩ := run_bind_eq_some.mp ran
  cases (run_findPlan fresh).symm.trans looked
  obtain ⟨outcome, between, compiles, ends⟩ := run_bind_eq_some.mp goes
  have compiles := compilesTo_of_compileFrom compiles
  cases outcome with
  | error error =>
    obtain ⟨rfl, rfl⟩ := run_pure_eq_some.mp ends
    exact .inl ⟨error, compiles, rfl⟩
  | ok symbol =>
    -- The plan has not been compiled meanwhile.
    have still := (compiles.plan?_eq aloof).trans fresh
    obtain ⟨_, _, looked, keeps⟩ := run_bind_eq_some.mp ends
    cases (run_findPlan still).symm.trans looked
    obtain ⟨_, _, kept, done⟩ := run_bind_eq_some.mp keeps
    obtain ⟨rfl, rfl⟩ := run_pure_eq_some.mp done
    exact .inr ⟨symbol, between, compiles, rfl, run_modifyWorld_eq_some.mp kept⟩

/-- Once an attempt to compile a plan has succeeded, linking goes on as if the plan had been
compiled before. -/
theorem link_of_fresh {natural : Option (Symbol β)} {answer : Except ExecutionError (Core β)}
    (ran : (engine.link id natural).run start = some (answer, finish)) :
    (∃ error, engine.CompilesTo plan natural start (.error error) finish ∧
        answer = .error error) ∨
      ∃ symbol between, engine.CompilesTo plan natural start (.ok symbol) between ∧
        (engine.link id natural).run (between.keepSymbol id symbol) = some (answer, finish) := by
  obtain ⟨_, _, looked, goes⟩ := run_bind_eq_some.mp ran
  cases (run_findPlan fresh).symm.trans looked
  obtain ⟨outcome, after, attempt, ends⟩ := run_bind_eq_some.mp goes
  -- Linking starts with an attempt to compile.
  rcases compile_of_fresh fresh aloof attempt with
    ⟨error, compiles, rfl⟩ | ⟨symbol, between, compiles, rfl, rfl⟩
  · obtain ⟨rfl, rfl⟩ := run_pure_eq_some.mp ends
    exact .inl ⟨error, compiles, rfl⟩
  · refine .inr ⟨symbol, between, compiles, ?_⟩
    -- From there the plan is found compiled, and not linked as yet.
    have kept := plan?_keepSymbol ((compiles.plan?_eq aloof).trans fresh) symbol
    refine run_bind_eq_some.mpr ⟨_, _, run_findPlan kept, ?_⟩
    refine run_bind_eq_some.mpr ⟨.ok symbol, _, ?_, ends⟩
    exact run_bind_eq_some.mpr ⟨_, _, run_findPlan kept, rfl⟩

end Fresh

section Uses

variable (performs : ∀ command, Within (fun before after : World β => after.Extends before)
  (engine.perform command))
include performs

/-- A plan that has been compiled serves its symbol, and stays compiled to it. -/
theorem serves_of_use (compiled : start.world.CompiledTo id plan symbol) {use : PlanUse β}
    {answer : use.Answer} (ran : (engine.use id use).run start = some (answer, finish)) :
    engine.Serves id plan symbol start use answer finish ∧
      finish.world.CompiledTo id plan symbol := by
  cases use with
  | compile natural =>
    obtain ⟨rfl, rfl⟩ := compile_of_compiled compiled ran
    exact ⟨.compiled, compiled⟩
  | execute natural receiver args =>
    obtain ⟨outcome, between, links, goes⟩ := run_bind_eq_some.mp ran
    -- A symbol without the part that the joinpoint needs stays the symbol of the plan.
    rcases link_of_compiled compiled links with ⟨fault, fails, rfl, rfl⟩ | ⟨core, joins, rfl, rfl⟩
    · obtain ⟨rfl, rfl⟩ := run_pure_eq_some.mp goes
      exact ⟨.unlinked fails, compiled⟩
    · obtain ⟨state, found, rfl, held, _⟩ := compiled
      -- The core is kept before the phases run, and neither it nor the symbol is given up in them.
      have kept : (start.keepCore id core).world.plan? id =
          some { state with linked := some core } := by
        rw [State.keepCore, plan?_modify, found]
        rfl
      obtain ⟨_, _, looked, runs⟩ := run_bind_eq_some.mp goes
      cases (run_findPlan kept).symm.trans looked
      obtain ⟨⟨_, left⟩, last, phases, ends⟩ := run_bind_eq_some.mp runs
      obtain ⟨rfl, rfl⟩ := run_pure_eq_some.mp ends
      have later := withinLayer_runPhases (World.permissive_extends fun _ => True).tolerant
        (fun command (_ : True) => performs command)
        (engine.host.permitted_of_forall fun _ => trivial) state.plan core _ _ phases
      exact ⟨.executed joins phases, compiledTo_of_extends kept rfl held rfl joins later⟩

/-- Any use of a plan that is not compiled is an attempt to compile it, which fails and leaves it as
it is, or is the one that succeeds. -/
theorem attempt_of_use (fresh : start.world.plan? id = some (.fresh plan))
    (aloof : ∀ advice ∈ plan.ofPhase .compile, engine.Aloof id advice) {use : PlanUse β}
    {answer : use.Answer} (ran : (engine.use id use).run start = some (answer, finish)) :
    engine.FailsToCompile id plan ⟨use, start, answer, finish⟩ ∨
      ∃ symbol, engine.FirstCompiles id plan symbol ⟨use, start, answer, finish⟩ ∧
        finish.world.CompiledTo id plan symbol := by
  cases use with
  | compile natural =>
    rcases compile_of_fresh fresh aloof ran with
      ⟨error, compiles, rfl⟩ | ⟨symbol, between, compiles, rfl, rfl⟩
    · exact .inl ⟨(compiles.plan?_eq aloof).trans fresh, error, compiles, rfl⟩
    · have still := (compiles.plan?_eq aloof).trans fresh
      have kept := plan?_keepSymbol still symbol
      exact .inr ⟨symbol, ⟨between, compiles, .compiled⟩, _, kept, rfl, rfl, nofun⟩
  | execute natural receiver args =>
    obtain ⟨outcome, after, links, goes⟩ := run_bind_eq_some.mp ran
    rcases link_of_fresh fresh aloof links with
      ⟨error, compiles, rfl⟩ | ⟨symbol, between, compiles, links⟩
    · obtain ⟨rfl, rfl⟩ := run_pure_eq_some.mp goes
      exact .inl ⟨(compiles.plan?_eq aloof).trans fresh, error, compiles, rfl⟩
    · -- The execution is one of the compiled plan.
      have executes : (engine.use id (.execute natural receiver args)).run
          (between.keepSymbol id symbol) = some (answer, finish) :=
        run_bind_eq_some.mpr ⟨outcome, after, links, goes⟩
      have still := (compiles.plan?_eq aloof).trans fresh
      obtain ⟨serves, compiled⟩ := serves_of_use performs
        ⟨_, plan?_keepSymbol still symbol, rfl, rfl, nofun⟩ executes
      exact .inr ⟨symbol, ⟨between, compiles, serves⟩, compiled⟩

/-- Once a plan has been compiled every use of it serves the symbol. -/
theorem serves_of_usedInTurn {uses : List (PlanUsed β τ)}
    (turns : engine.UsedInTurn id start uses finish)
    (compiled : start.world.CompiledTo id plan symbol) :
    ∀ used ∈ uses, engine.Serves id plan symbol used.start used.use used.answer used.finish ∧
      used.finish.world.CompiledTo id plan symbol := by
  -- The induction is on the uses; the invariant is that the plan stays compiled to the symbol.
  induction turns with
  | nil =>
    intro used mem
    cases mem
  | cons ran others ih =>
    have served := serves_of_use performs compiled ran
    exact List.forall_mem_cons.mpr ⟨served, ih served.2⟩

end Uses

/-- What becomes of a plan that has not been used, in uses one after the other with any natural
symbols: attempts to compile it fail, until one succeeds, and from then on every use serves the
symbol that this one gave. The plan stays compiled to it, whether it links or not. -/
structure CompilesOnce (engine : Engine β τ) (id : PlanId) (plan : Plan β)
    (failed settled : List (PlanUsed β τ)) : Prop where
  failed : ∀ used ∈ failed, engine.FailsToCompile id plan used
  settled : ∀ first later, settled = first :: later → ∃ symbol,
    engine.FirstCompiles id plan symbol first ∧
    (∀ used ∈ later, engine.Serves id plan symbol used.start used.use used.answer used.finish) ∧
    ∀ used ∈ first :: later, used.finish.world.CompiledTo id plan symbol

end Engine

/-- Whatever the bodies of a host do, a plan whose compile advices do not touch it is compiled once,
by the first use that succeeds in it. A plan that has been built runs its compile advices in
ascending order. -/
theorem Host.plan_compilesOnce (host : Host β τ) (budget : Nat) {id : PlanId} {plan : Plan β}
    {start finish : State β τ} {uses : List (PlanUsed β τ)}
    (fresh : start.world.plan? id = some (.fresh plan))
    (aloof : ∀ advice ∈ plan.ofPhase .compile, (host.engine budget).Aloof id advice)
    (turns : (host.engine budget).UsedInTurn id start uses finish) :
    (∃ failed settled, uses = failed ++ settled ∧
        (host.engine budget).CompilesOnce id plan failed settled) ∧
      ∀ reflection index target joinpoint, plan = .build reflection index target joinpoint →
        (plan.ofPhase .compile).Pairwise fun x y => x.precedence.le y.precedence = true := by
  constructor
  · have performs : ∀ command, Engine.Within (fun before after : World β => after.Extends before)
        ((host.engine budget).perform command) :=
      fun command => host.within_anyCommand (World.permissive_extends _) budget command
    -- The induction is on the uses; as long as none has succeeded the plan is as it was at first.
    induction turns with
    | nil =>
      refine ⟨[], [], rfl, ?_, ?_⟩
      · intro used mem
        cases mem
      · intro first later same
        cases same
    | @cons start use answer between rest finish ran others ih =>
      -- A failed attempt goes before those that follow; after one that succeeds all are settled.
      rcases Engine.attempt_of_use performs fresh aloof ran with fails | ⟨symbol, first, compiled⟩
      · obtain ⟨failed, settled, rfl, once⟩ := ih fails.1
        refine ⟨_ :: failed, settled, rfl, ?_, once.settled⟩
        exact List.forall_mem_cons.mpr ⟨fails, once.failed⟩
      · have serves := Engine.serves_of_usedInTurn performs others compiled
        refine ⟨[], _ :: rest, rfl, ?_, ?_⟩
        · intro used mem
          cases mem
        · intro head later same
          obtain ⟨rfl, rfl⟩ := List.cons.inj same
          refine ⟨symbol, first, fun used mem => (serves used mem).1, ?_⟩
          exact List.forall_mem_cons.mpr ⟨compiled, fun used mem => (serves used mem).2⟩
  · intro reflection index target joinpoint same
    -- The advices of one phase are in the order of all of them.
    rw [same]
    exact (Plan.sorted_build reflection index target joinpoint).filter _

/-- A host whose methods return their codes, and whose compile advices put their own code in place
of the method that they are given, if there is one. -/
def replacingHost : Host Nat Unit where
  initializer _ _ _ := .done (.ok ())
  method code _ _ := .done (.ok (.token code))
  getter _ _ := .done (.ok .null)
  setter _ _ _ := .done (.ok ())
  stub _ _ _ := .done (.ok ())
  compile code context := .done (.ok (context.symbol.map fun _ => .method code), context)
  advice _ invocation := .done (.ok none, invocation.context)

/-- A plan for a method with a compile advice. -/
def replacedPlan : Plan Nat where
  target :=
    let root : Target := .root ⟨⟨0⟩, "A", "A"⟩ (.ofClass ⟨0⟩)
    .method root.owner (.ofMethod ⟨0⟩ "m") "m" root root
  joinpoint := .call
  annotations := []
  advices := [⟨"replace", ⟨.compile, .of .method [] "*"⟩, "aspect", ⟨.lowest, 0, .lowest, 0⟩, 7⟩]

/-- Without a natural symbol compiling fails. The first execution with one compiles the plan to the
method of the advice, which is called then, and which a different natural symbol does not change. -/
theorem Host.plan_compilesOnce_replaced :
    let engine := replacingHost.engine 0
    let start : State Nat Unit :=
      ⟨{ World.ofConfig .standard with plans := #[.fresh replacedPlan] }, ()⟩
    let missing : ExecutionError := .weaving (.missingSymbol replacedPlan.target.label)
    ∃ finish,
      let uses : List (PlanUsed Nat Unit) :=
        [⟨.compile none, start, .error missing, start⟩,
          ⟨.execute (some (.method 1)) (some ⟨0⟩) [], start, .ok (.token 7), finish⟩,
          ⟨.compile (some (.method 2)), finish, .ok (.method 7), finish⟩]
      start.world.plan? ⟨0⟩ = some (.fresh replacedPlan) ∧
        (∀ advice ∈ replacedPlan.ofPhase .compile, engine.Aloof ⟨0⟩ advice) ∧
        engine.UsedInTurn ⟨0⟩ start uses finish ∧
        ∃ failed settled, uses = failed ++ settled ∧
          engine.CompilesOnce ⟨0⟩ replacedPlan failed settled := by
  intro engine start missing
  have aloof : ∀ advice ∈ replacedPlan.ofPhase .compile, engine.Aloof ⟨0⟩ advice := by
    intro advice mem context state result finish ran
    obtain ⟨_, rfl⟩ := Engine.run_pure_eq_some.mp ran
    rfl
  -- The second use starts where the first one ended, and so does the third.
  have turns := Engine.UsedInTurn.cons (rfl : (engine.use ⟨0⟩ (.compile none)).run start =
    some (.error missing, start)) (.cons (rfl : (engine.use ⟨0⟩ (.execute (some (.method 1))
      (some ⟨0⟩) [])).run start = some (.ok (.token 7), _)) (.cons (rfl : (engine.use ⟨0⟩
        (.compile (some (.method 2)))).run _ = some (.ok (.method 7), _)) .nil))
  exact ⟨_, rfl, aloof, turns, (replacingHost.plan_compilesOnce 0 rfl aloof turns).1⟩

end AspectWeaving
