import AspectWeaving.Proofs.Engine.Runs

/-! Runs that stay within a relation between worlds. Using instances, and making, compiling and
executing plans, stays within every relation that allows the few steps which it is made of. -/

namespace AspectWeaving

variable {β τ α γ : Type}

/-- All requests of a program, whatever it is answered with, are as wanted. -/
def Program.Asks {Request : Type} {Answer : Request → Type} (wanted : Request → Prop) :
    Program Request Answer α → Prop
  | .done _ => True
  | .ask asked next => wanted asked ∧ ∀ answer, (next answer).Asks wanted

/-- A body's request is for a permitted command, or for none. -/
def Request.Permitted (permitted : Command β → Prop) : Request β τ → Prop
  | .perform command => permitted command
  | .inspect | .store _ => True

/-- A runtime advice's request is for a permitted command, or for none. -/
def AdviceRequest.Permitted (permitted : Command β → Prop) : AdviceRequest β τ → Prop
  | .plain request => request.Permitted permitted
  | .proceed _ => True

/-- A host none of whose bodies asks for a command that is not permitted. -/
structure Host.Permitted (permitted : Command β → Prop) (host : Host β τ) : Prop where
  initializer : ∀ code receiver args,
    (host.initializer code receiver args).Asks (Request.Permitted permitted)
  method : ∀ code receiver args, (host.method code receiver args).Asks (Request.Permitted permitted)
  getter : ∀ code receiver, (host.getter code receiver).Asks (Request.Permitted permitted)
  setter : ∀ code receiver value,
    (host.setter code receiver value).Asks (Request.Permitted permitted)
  stub : ∀ code target args, (host.stub code target args).Asks (Request.Permitted permitted)
  compile : ∀ code context, (host.compile code context).Asks (Request.Permitted permitted)
  advice : ∀ code invocation,
    (host.advice code invocation).Asks (AdviceRequest.Permitted permitted)

/-- Every program makes only requests that are wanted if all are. -/
theorem Program.asks_of_forall {Request : Type} {Answer : Request → Type}
    {wanted : Request → Prop} (all : ∀ asked, wanted asked)
    (program : Program Request Answer α) : program.Asks wanted := by
  -- The induction is on the program.
  induction program with
  | done result => trivial
  | ask asked next ih => exact ⟨all asked, ih⟩

/-- Every host keeps to the permitted commands if all are permitted. -/
theorem Host.permitted_of_forall {permitted : Command β → Prop}
    (all : ∀ command, permitted command) (host : Host β τ) : host.Permitted permitted := by
  have plain (request : Request β τ) : request.Permitted permitted := by
    cases request <;> simp [Request.Permitted, all]
  have advised (request : AdviceRequest β τ) : request.Permitted permitted := by
    cases request <;> simp [AdviceRequest.Permitted, plain]
  -- All kinds of bodies ask for nothing else.
  constructor <;> intros <;> apply Program.asks_of_forall <;> assumption

/-- What is added at the end of an array takes nothing out of it. -/
theorem World.getElem?_push_of_some {γ : Type} {items : Array γ} {index : Nat} {item : γ}
    (added : γ) (found : items[index]? = some item) : (items.push added)[index]? = some item := by
  -- An item that is there has its place before the new one.
  obtain ⟨within, rfl⟩ := Array.getElem?_eq_some_iff.mp found
  rw [Array.getElem?_push_lt within]

/-- A slot that can be used now: a woven class has it for a joinpoint. -/
def World.Offers (world : World β) (slot : Slot β) (joinpoint : Joinpoint) : Prop :=
  ∃ id woven member, world.woven? id = some woven ∧ woven.slot? joinpoint member = some slot

/-- What can become of a plan in use: it stays the same plan, and what it was compiled and linked to
once is not given up. -/
structure PlanState.Advances (before after : PlanState β) : Prop where
  plan : after.plan = before.plan
  compiled : ∀ {symbol}, before.compiled = some symbol → after.compiled = some symbol
  linked : ∀ {core}, before.linked = some core → after.linked = some core

/-- A plan stays as it is. -/
theorem PlanState.Advances.refl (state : PlanState β) : state.Advances state :=
  ⟨rfl, fun present => present, fun present => present⟩

/-- What can become of a plan can become of what came of it. -/
theorem PlanState.Advances.trans {first second third : PlanState β} (early : first.Advances second)
    (late : second.Advances third) : first.Advances third :=
  ⟨late.plan.trans early.plan, fun present => late.compiled (early.compiled present),
    fun present => late.linked (early.linked present)⟩

/-- Where one plan advances, every plan is as it was or has advanced. -/
theorem World.exists_plan?_modify {world : World β} {id other : PlanId} {state kept : PlanState β}
    {change : PlanState β → PlanState β} (found : world.plan? id = some state)
    (advances : state.Advances (change state)) (held : world.plan? other = some kept) :
    ∃ later, ({ world with plans := world.plans.modify id.number change } : World β).plan? other =
      some later ∧ kept.Advances later := by
  -- The plan is the one that is changed, or another one.
  simp only [plan?, Array.getElem?_modify] at found held ⊢
  by_cases changed : id.number = other.number
  · obtain rfl : state = kept := Option.some.inj (found.symm.trans (changed ▸ held))
    exact ⟨change state, by simp [changed, held], advances⟩
  · exact ⟨kept, by simp [changed, held], .refl kept⟩

/-- The plan that a command asks for directly, and the symbol that it gives for it. -/
def Command.plan? : Command β → Option (PlanId × Option (Symbol β))
  | .compile id natural | .execute id natural _ _ => some (id, natural)
  | _ => none

/-- How a plan comes to be used with a symbol: a permitted command asks for it, or the plan has just
been looked up for a slot, whose natural symbol this is. -/
inductive World.Hands (permitted : Command β → Prop) (world : World β) (id : PlanId)
    (natural : Option (Symbol β)) : Prop where
  | asked {command} (allowed : permitted command) (named : command.plan? = some (id, natural))
  | looked {before : World β} {slot joinpoint} (offers : before.Offers slot joinpoint)
      (planned : before.planFor slot.target joinpoint = (id, world)) (own : slot.natural = natural)

/-- The world with a symbol kept for a plan. -/
def World.keepSymbol (world : World β) (id : PlanId) (symbol : Symbol β) : World β :=
  { world with
    plans := world.plans.modify id.number fun state => { state with compiled := some symbol } }

/-- The world with a core kept for a plan. -/
def World.keepCore (world : World β) (id : PlanId) (core : Core β) : World β :=
  { world with
    plans := world.plans.modify id.number fun state => { state with linked := some core } }

/-- Keeping a symbol, unless there is one already, lets the plan advance, and the others stay. -/
theorem World.exists_plan?_keepSymbol {world : World β} {id other : PlanId}
    {state kept : PlanState β} (found : world.plan? id = some state) (symbol : Symbol β)
    (held : world.plan? other = some kept) :
    ∃ later, (world.keepSymbol id (state.compiled.getD symbol)).plan? other = some later ∧
      kept.Advances later :=
  -- A symbol that is there is kept.
  exists_plan?_modify found
    ⟨rfl, fun present => by rw [present]; rfl, fun present => present⟩ held

/-- Keeping a core, unless there is one already, lets the plan advance, and the others stay. -/
theorem World.exists_plan?_keepCore {world : World β} {id other : PlanId}
    {state kept : PlanState β} (found : world.plan? id = some state) (core : Core β)
    (held : world.plan? other = some kept) :
    ∃ later, (world.keepCore id (state.linked.getD core)).plan? other = some later ∧
      kept.Advances later :=
  -- A core that is there is kept.
  exists_plan?_modify found
    ⟨rfl, fun present => present, fun present => by rw [present]; rfl⟩ held

/-- A relation between worlds that allows every step that using instances and plans takes, the plans
through permitted commands and slots. Only compile advices can do anything between the moment at
which a plan is looked at and the one at which a symbol is kept for it. -/
structure Tolerant (permitted : Command β → Prop) (R : World β → World β → Prop) : Prop where
  refl : ∀ world, R world world
  trans : ∀ {first second third}, R first second → R second third → R first third
  allocate : ∀ world woven, R world (world.allocate woven).2
  setField : ∀ world id name value, R world (world.setField id name value)
  pin : ∀ world, R world world.pin
  unpin : ∀ world, R world world.unpin
  keepSymbol : ∀ {earlier world id natural first state symbol}, R earlier world →
    earlier.Hands permitted id natural → earlier.plan? id = some first →
    world.plan? id = some state →
    (first.plan.ofPhase .compile = [] → world = earlier ∧ natural = some symbol) →
      R world (world.keepSymbol id (state.compiled.getD symbol))
  keepCore : ∀ {earlier world id first state symbol core}, R earlier world →
    earlier.plan? id = some first → world.plan? id = some state → state.compiled = some symbol →
    first.plan.joinpoint.link symbol first.plan.target.label = .ok core →
      R world (world.keepCore id (state.linked.getD core))
  planFor : ∀ world slot joinpoint, world.Offers slot joinpoint →
    R world (world.planFor slot.target joinpoint).2

namespace Engine

/-- A run from a state that ends in a related world, if it ends. -/
def Reaches (R : World β → World β → Prop) (run : Run β τ α) (start : State β τ) : Prop :=
  ∀ ⦃result finish⦄, run.run start = some (result, finish) → R start.world finish.world

/-- A run that ends in a related world wherever it starts. -/
def Within (R : World β → World β → Prop) (run : Run β τ α) : Prop :=
  ∀ start, Reaches R run start

/-- A run of a part of an invocation that ends in a related world. -/
def WithinLayer (R : World β → World β → Prop) (run : LayerRun β τ α) : Prop :=
  ∀ invocation, Within R (run.run invocation)

variable {R : World β → World β → Prop} {permitted : Command β → Prop}

section Steps

variable (tolerant : Tolerant permitted R)
include tolerant

/-- A result alone changes nothing. -/
theorem within_pure (result : α) : Within R (pure result : Run β τ α) := by
  -- The world stays as it is.
  intro start given finish ran
  obtain ⟨rfl, rfl⟩ := run_pure_eq_some.mp ran
  exact tolerant.refl _

/-- Runs one after the other stay within what both stay within. -/
theorem reaches_bind {first : Run β τ α} {second : α → Run β τ γ} {start : State β τ}
    (before : Reaches R first start)
    (after : ∀ result between, first.run start = some (result, between) →
      Reaches R (second result) between) : Reaches R (first >>= second) start := by
  intro last finish ran
  -- The two runs meet in a state, and the relation carries over.
  obtain ⟨result, between, ran, goes⟩ := run_bind_eq_some.mp ran
  exact tolerant.trans (before ran) (after result between ran goes)

/-- Runs one after the other stay within what both stay within. -/
theorem within_bind {first : Run β τ α} {second : α → Run β τ γ} (before : Within R first)
    (after : ∀ result, Within R (second result)) : Within R (first >>= second) :=
  -- This is so wherever the first run ends.
  fun start => reaches_bind tolerant (before start) fun result between _ => after result between

/-- Looking up changes nothing. -/
theorem within_find (lookUp : World β → Option α) : Within R (find lookUp : Run β τ α) := by
  -- The world stays as it is.
  intro start found finish ran
  obtain ⟨_, rfl⟩ := run_find_eq_some.mp ran
  exact tolerant.refl _

/-- Looking at the world changes nothing. -/
theorem within_getWorld : Within R (getWorld : Run β τ (World β)) := by
  -- The world stays as it is.
  intro start found finish ran
  obtain ⟨_, rfl⟩ := run_getWorld_eq_some.mp ran
  exact tolerant.refl _

end Steps

/-- A change of the world stays within what relates each world to the changed one. -/
theorem within_modifyWorld {change : World β → World β}
    (changes : ∀ world, R world (change world)) :
    Within R (modifyWorld change : Run β τ Unit) := by
  -- The world is the changed one.
  intro start result finish ran
  rw [run_modifyWorld_eq_some.mp ran]
  exact changes start.world

/-- A step on the world stays within what relates each world to the next. -/
theorem within_onWorld {step : World β → α × World β} (steps : ∀ world, R world (step world).2) :
    Within R (onWorld step : Run β τ α) := by
  intro start result finish ran
  -- The state that the run ends in is the one that the step gives.
  have same := (run_onWorld_eq_some.mp ran).1
  have reached := steps start.world
  rwa [same] at reached

section Bodies

variable (tolerant : Tolerant permitted R) {engine : Engine β τ}
  (performs : ∀ command, permitted command → Within R (engine.perform command))
include tolerant performs

/-- Serving a body stays within the relation. -/
theorem within_serve {request : Request β τ} (allowed : request.Permitted permitted) :
    Within R (engine.serve request) := by
  cases request with
  -- Looking at what the host keeps and storing it do not touch the world.
  | inspect =>
    intro start result finish ran
    cases ran
    exact tolerant.refl _
  | store host =>
    intro start result finish ran
    cases ran
    exact tolerant.refl _
  | perform command => exact performs command allowed

/-- Running a body stays within the relation. -/
theorem within_runAction {action : Action β τ α}
    (asks : action.Asks (Request.Permitted permitted)) : Within R (engine.runAction action) := by
  -- The induction is on the program of the body.
  induction action with
  | done result => exact within_pure tolerant result
  | ask asked next ih =>
    exact within_bind tolerant (within_serve tolerant performs asks.1) fun answer =>
      ih answer (asks.2 answer)

variable (bodies : engine.host.Permitted permitted)
include bodies

/-- Running the bodies of a constructor stays within the relation. -/
theorem within_runChain (receiver : InstanceId) (args : List Value) (chain : List β) :
    Within R (engine.runChain receiver args chain) := by
  -- The induction is on the constructors that are still to be run.
  induction chain with
  | nil => exact within_pure tolerant _
  | cons code rest ih =>
    refine within_bind tolerant
      (within_runAction tolerant performs (bodies.initializer code receiver args)) fun result => ?_
    -- A constructor that fails ends the chain.
    cases result with
    | error error => exact within_pure tolerant _
    | ok => exact ih

/-- Reading a property stays within the relation. -/
theorem within_read (access : Access β) (receiver : InstanceId) :
    Within R (engine.read access receiver) := by
  -- A plain field is read from the world, anything else by a body.
  cases access with
  | field name =>
    exact within_bind tolerant (within_getWorld tolerant) fun _ => within_pure tolerant _
  | body code => exact within_runAction tolerant performs (bodies.getter code receiver)

/-- Writing a property stays within the relation. -/
theorem within_write (access : Access β) (receiver : InstanceId) (value : Value) :
    Within R (engine.write access receiver value) := by
  -- A plain field is a change of the instance, anything else is up to a body.
  cases access with
  | field name =>
    exact within_bind tolerant (within_modifyWorld fun world => tolerant.setField world _ _ _)
      fun _ => within_pure tolerant _
  | body code => exact within_runAction tolerant performs (bodies.setter code receiver value)

/-- Running a core stays within the relation. -/
theorem within_runCore (core : Core β) (context : AdviceContext β) :
    Within R (engine.runCore core context) := by
  unfold runCore
  -- Without a receiver no body is run.
  cases context.receiver with
  | none => exact within_pure tolerant _
  | some receiver =>
    cases core with
    | construct chain =>
      exact within_bind tolerant (within_runChain tolerant performs bodies receiver _ chain)
        fun _ => within_pure tolerant _
    | call code => exact within_runAction tolerant performs (bodies.method code receiver _)
    | read access => exact within_read tolerant performs bodies access receiver
    | write access =>
      exact within_bind tolerant (within_write tolerant performs bodies access receiver _)
        fun _ => within_pure tolerant _

end Bodies

section Layers

variable (tolerant : Tolerant permitted R)

include tolerant in
/-- A result alone changes nothing. -/
theorem withinLayer_pure (result : α) : WithinLayer R (pure result : LayerRun β τ α) :=
  fun invocation => within_pure tolerant (result, invocation)

include tolerant in
/-- Parts of an invocation one after the other stay within what both stay within. -/
theorem withinLayer_bind {first : LayerRun β τ α} {second : α → LayerRun β τ γ}
    (before : WithinLayer R first) (after : ∀ result, WithinLayer R (second result)) :
    WithinLayer R (first >>= second) := by
  intro invocation
  -- The second part starts with the invocation that the first one left.
  rw [StateT.run_bind]
  exact within_bind tolerant (before invocation) fun (result, changed) => after result changed

include tolerant in
/-- Looking at the invocation changes nothing. -/
theorem withinLayer_get : WithinLayer R (MonadState.get : LayerRun β τ (Invocation β)) :=
  fun invocation => within_pure tolerant (invocation, invocation)

include tolerant in
/-- Changing the invocation changes nothing else. -/
theorem withinLayer_modify (change : Invocation β → Invocation β) :
    WithinLayer R (modify change : LayerRun β τ Unit) :=
  fun invocation => within_pure tolerant ((), change invocation)

include tolerant in
/-- A run that leaves the invocation alone is a part of it. -/
theorem withinLayer_lift {run : Run β τ α} (within : Within R run) :
    WithinLayer R (StateT.lift run : LayerRun β τ α) := by
  -- The invocation stays as it is.
  intro invocation
  exact within_bind tolerant within fun result => within_pure tolerant (result, invocation)

include tolerant in
/-- Looking at the value changes nothing. -/
theorem withinLayer_getValue : WithinLayer R (getValue : LayerRun β τ Value) :=
  withinLayer_bind tolerant (withinLayer_get tolerant) fun _ => withinLayer_pure tolerant _

include tolerant in
/-- Taking a value changes only the invocation. -/
theorem withinLayer_substitute (plan : Plan β) (advice : Advice β) (value : Value) :
    WithinLayer R (substitute plan advice value : LayerRun β τ _) := by
  -- Only the invocation changes, if anything does.
  unfold substitute
  split
  · exact withinLayer_pure tolerant _
  · exact withinLayer_bind tolerant (withinLayer_modify tolerant _) fun _ =>
      withinLayer_pure tolerant _

include tolerant in
/-- Proceeding stays within what the layers within reach stay within. -/
theorem withinLayer_proceed
    {reachable : Nat → Option (LayerRun β τ (Except ExecutionError Value))}
    (reaches : ∀ {level layer}, reachable level = some layer → WithinLayer R layer) :
    WithinLayer R (proceed reachable) := by
  refine withinLayer_bind tolerant (withinLayer_get tolerant) fun invocation => ?_
  split
  · exact withinLayer_pure tolerant _
  · next layer reached =>
    -- The slot is put back behind the layer, which changes only the invocation.
    obtain ⟨level, _, reached⟩ := Option.bind_eq_some_iff.mp reached
    exact withinLayer_bind tolerant (reaches reached) fun result =>
      withinLayer_bind tolerant (withinLayer_modify tolerant _) fun _ =>
        withinLayer_pure tolerant _

variable {engine : Engine β τ}
  (performs : ∀ command, permitted command → Within R (engine.perform command))
  (bodies : engine.host.Permitted permitted)
include tolerant performs bodies

/-- Calling an advice stays within the relation. -/
theorem withinLayer_callAdvice (advice : Advice β)
    {reachable : Nat → Option (LayerRun β τ (Except ExecutionError Value))}
    (reaches : ∀ {level layer}, reachable level = some layer → WithinLayer R layer) :
    WithinLayer R (engine.callAdvice advice reachable) := by
  -- What an advice asks for is what any body asks for, or a use of proceeding.
  have serves {request : AdviceRequest β τ} (allowed : request.Permitted permitted) :
      WithinLayer R (engine.serveAdvice reachable request) := by
    cases request with
    | plain request => exact withinLayer_lift tolerant (within_serve tolerant performs allowed)
    | proceed context =>
      exact withinLayer_bind tolerant (withinLayer_modify tolerant _) fun _ =>
        withinLayer_bind tolerant (withinLayer_proceed tolerant reaches) fun _ =>
          withinLayer_bind tolerant (withinLayer_get tolerant) fun _ =>
            withinLayer_pure tolerant _
  -- The induction is on the program of the advice.
  have runs {action : AdviceAction β τ (Except ExecutionError (Option Value) × AdviceContext β)}
      (asks : action.Asks (AdviceRequest.Permitted permitted)) :
      WithinLayer R (action.run (engine.serveAdvice reachable)) := by
    induction action with
    | done result => exact withinLayer_pure tolerant result
    | ask asked next ih =>
      exact withinLayer_bind tolerant (serves asks.1) fun answer => ih answer (asks.2 answer)
  refine withinLayer_bind tolerant (withinLayer_get tolerant) fun invocation => ?_
  exact withinLayer_bind tolerant (runs (bodies.advice advice.body invocation)) fun _ =>
    withinLayer_bind tolerant (withinLayer_modify tolerant _) fun _ =>
      withinLayer_pure tolerant _

/-- Running observers stays within the relation. -/
theorem withinLayer_runObservers (label : String) (advices : List (Advice β)) :
    WithinLayer R (engine.runObservers label advices) := by
  -- The induction is on the advices that are still to be called.
  induction advices with
  | nil => exact withinLayer_pure tolerant _
  | cons advice rest ih =>
    refine withinLayer_bind tolerant
      (withinLayer_callAdvice tolerant performs bodies advice nofun) fun returned => ?_
    -- An error and a value end the sequence.
    rcases returned with error | _ | value
    · exact withinLayer_pure tolerant _
    · exact ih
    · exact withinLayer_pure tolerant _

/-- Running substitutes stays within the relation. -/
theorem withinLayer_runSubstitutes (plan : Plan β) (advices : List (Advice β)) :
    WithinLayer R (engine.runSubstitutes plan advices) := by
  -- The induction is on the advices that are still to be called.
  induction advices with
  | nil =>
    exact withinLayer_bind tolerant (withinLayer_getValue tolerant) fun _ =>
      withinLayer_pure tolerant _
  | cons advice rest ih =>
    refine withinLayer_bind tolerant
      (withinLayer_callAdvice tolerant performs bodies advice nofun) fun returned => ?_
    rcases returned with error | _ | value
    · exact withinLayer_pure tolerant _
    · exact ih
    · refine withinLayer_bind tolerant (withinLayer_substitute tolerant plan advice value)
        fun verdict => ?_
      -- A value that is refused ends the sequence.
      cases verdict with
      | error error => exact withinLayer_pure tolerant _
      | ok => exact ih

/-- Running the innermost layer stays within the relation. -/
theorem withinLayer_runInnermost (plan : Plan β) (core : Core β) :
    WithinLayer R (engine.runInnermost plan core) := by
  refine withinLayer_bind tolerant
    (withinLayer_runObservers tolerant performs bodies _ _) fun verdict => ?_
  -- The core is not run after a before advice that fails.
  cases verdict with
  | error error => exact withinLayer_pure tolerant _
  | ok =>
    refine withinLayer_bind tolerant (withinLayer_get tolerant) fun invocation =>
      withinLayer_bind tolerant (withinLayer_lift tolerant
        (within_runCore tolerant performs bodies core _)) fun ended => ?_
    cases ended with
    | ok value =>
      exact withinLayer_bind tolerant (withinLayer_modify tolerant _) fun _ =>
        withinLayer_runSubstitutes tolerant performs bodies plan _
    | error error =>
      dsimp only
      -- A fatal error is passed on; any other is handled by advices.
      split
      · exact withinLayer_pure tolerant _
      · exact withinLayer_bind tolerant (withinLayer_modify tolerant _) fun _ =>
          withinLayer_bind tolerant (withinLayer_modify tolerant _) fun _ =>
            withinLayer_bind tolerant
              (withinLayer_runSubstitutes tolerant performs bodies plan _) fun _ =>
                withinLayer_bind tolerant (withinLayer_modify tolerant _) fun _ =>
                  withinLayer_pure tolerant _

/-- Running a layer stays within the relation. -/
theorem withinLayer_runLayer (plan : Plan β) (core : Core β) (level : Nat)
    (around : List (Advice β)) : WithinLayer R (engine.runLayer plan core level around) := by
  -- The induction is on the around advices, from the outside to the inside.
  induction around generalizing level with
  | nil =>
    exact withinLayer_bind tolerant (withinLayer_get tolerant) fun _ =>
      withinLayer_bind tolerant (withinLayer_modify tolerant _) fun _ =>
        withinLayer_bind tolerant
          (withinLayer_runInnermost tolerant performs bodies plan core) fun _ =>
            withinLayer_bind tolerant (withinLayer_modify tolerant _) fun _ =>
              withinLayer_pure tolerant _
  | cons advice inner ih =>
    refine withinLayer_bind tolerant (withinLayer_get tolerant) fun _ =>
      withinLayer_bind tolerant (withinLayer_modify tolerant _) fun _ => ?_
    refine withinLayer_bind tolerant (withinLayer_callAdvice tolerant performs bodies advice
      fun {reached layer} found => ?_) fun returned =>
        withinLayer_bind tolerant (withinLayer_modify tolerant _) fun _ => ?_
    · -- The only layer within reach is the next one inside.
      split at found
      · cases found
        exact ih (level + 1)
      · cases found
    · -- What the advice returned concerns the invocation alone.
      rcases returned with error | _ | value
      · exact withinLayer_pure tolerant _
      · exact withinLayer_bind tolerant (withinLayer_getValue tolerant) fun _ =>
          withinLayer_pure tolerant _
      · refine withinLayer_bind tolerant (withinLayer_substitute tolerant plan advice value)
          fun verdict => ?_
        cases verdict with
        | error error => exact withinLayer_pure tolerant _
        | ok =>
          exact withinLayer_bind tolerant (withinLayer_getValue tolerant) fun _ =>
            withinLayer_pure tolerant _

/-- Running an invocation stays within the relation. -/
theorem withinLayer_runPhases (plan : Plan β) (core : Core β) :
    WithinLayer R (engine.runPhases plan core) := by
  refine withinLayer_bind tolerant
    (withinLayer_runLayer tolerant performs bodies plan core 0 _) fun result => ?_
  -- After advices are called if there are any.
  split
  · exact withinLayer_pure tolerant _
  · refine withinLayer_bind tolerant (withinLayer_modify tolerant _) fun _ =>
      withinLayer_bind tolerant (withinLayer_runObservers tolerant performs bodies _ _)
        fun verdict => ?_
    cases verdict with
    | error error => exact withinLayer_pure tolerant _
    | ok =>
      exact withinLayer_bind tolerant (withinLayer_get tolerant) fun _ =>
        withinLayer_pure tolerant _

end Layers

end Engine

end AspectWeaving
