import AspectWeaving.Proofs.Engine.Recording
import AspectWeaving.Proofs.Engine.Runs

/-! Linking without compile advices: a plan links to what the natural symbol of its slot gives. -/

namespace AspectWeaving

variable {β τ α : Type}

/-- A relation between states that the original cannot tell apart. It need not hold between a state
and itself; it does where the original and the observers can be run at all. No use that is made of
plans makes a difference. -/
structure Overlooks (R : State β τ → State β τ → Prop) : Prop where
  symm : ∀ {left right}, R left right → R right left
  trans : ∀ {left middle right}, R left middle → R middle right → R left right
  planFor : ∀ {state} target joinpoint, R state state →
    R state { state with world := (state.world.planFor target joinpoint).2 }
  keepPlan : ∀ {state} (id : PlanId) change,
    (∀ kept : PlanState β, (change kept).plan = kept.plan) → R state state →
    R state { state with
      world := { state.world with plans := state.world.plans.modify id.number change } }

/-- What linking the natural symbol of a slot gives. -/
def Slot.linked (slot : Slot β) (joinpoint : Joinpoint) : Except ExecutionError (Core β) :=
  match slot.natural with
  | none => .error (.weaving (.missingSymbol slot.target.label))
  | some symbol => (joinpoint.link symbol slot.target.label).mapError .weaving

/-- What a slot links to is a core of its natural symbol. -/
theorem Slot.exists_link_of_linked (slot : Slot β) {joinpoint : Joinpoint} {core : Core β}
    (linked : slot.linked joinpoint = .ok core) :
    ∃ symbol, slot.natural = some symbol ∧
      joinpoint.link symbol slot.target.label = .ok core := by
  -- Without a symbol, or with one that does not link, there would be an error.
  unfold Slot.linked at linked
  cases given : slot.natural with
  | none => simp [given] at linked
  | some symbol =>
    rw [given] at linked
    cases links : joinpoint.link symbol slot.target.label with
    | error fault => simp [links, Except.mapError] at linked
    | ok other =>
      obtain rfl : other = core := by simpa [links, Except.mapError] using linked
      exact ⟨symbol, rfl, links⟩

/-- A plan for a slot, not used yet or used with the natural symbol of the slot only. This is what
runs come to that use plans through woven classes (`World.serves_of_run`). -/
structure PlanState.Serves (state : PlanState β) (slot : Slot β) (joinpoint : Joinpoint) :
    Prop where
  target : state.plan.target = slot.target
  use : state.plan.joinpoint = joinpoint
  compiled : ∀ symbol, state.compiled = some symbol → slot.natural = some symbol
  linked : ∀ core, state.linked = some core → slot.linked joinpoint = .ok core

namespace Engine

variable {R : State β τ → State β τ → Prop}

section Plans

variable (engine : Engine β τ) {start : State β τ} {id : PlanId} {state : PlanState β}
  {slot : Slot β} {joinpoint : Joinpoint}

/-- A plan that is changed is found as it was changed. -/
theorem plan?_modify (world : World β) (id : PlanId) (change : PlanState β → PlanState β) :
    ({ world with plans := world.plans.modify id.number change } : World β).plan? id =
      (world.plan? id).map change := by
  simp [World.plan?, Array.getElem?_modify]

/-- A plan that is there is found. -/
theorem run_findPlan (found : start.world.plan? id = some state) :
    (find fun world => world.plan? id : Run β τ (PlanState β)).run start = some (state, start) :=
  run_find_eq_some.mpr ⟨found, rfl⟩

variable (overlooks : Overlooks R) (fair : R start start)
  (found : start.world.plan? id = some state) (serves : state.Serves slot joinpoint)
  (natural : state.plan.ofPhase .compile = [])
include overlooks fair found serves natural

/-- Without compile advices a plan is compiled to the natural symbol of its slot. -/
theorem run_compile_of_serves :
    ∃ finish after, (engine.compile id slot.natural).run start =
        some (match slot.natural with
          | none => .error (.weaving (.missingSymbol slot.target.label))
          | some symbol => .ok symbol, finish) ∧
      R start finish ∧ finish.world.plan? id = some after ∧ after.plan = state.plan ∧
      after.linked = state.linked ∧ after.Serves slot joinpoint := by
  cases held : state.compiled with
  | some symbol =>
    -- What has been kept is the natural symbol.
    refine ⟨start, state, run_bind_eq_some.mpr ⟨state, start, run_findPlan found, ?_⟩, fair,
      found, rfl, rfl, serves⟩
    rw [held, serves.compiled symbol held]
    rfl
  | none =>
    cases given : slot.natural with
    | none =>
      refine ⟨start, state, run_bind_eq_some.mpr ⟨state, start, run_findPlan found, ?_⟩,
        fair, found, rfl, rfl, serves⟩
      rw [held, compileFrom_eq engine natural, serves.target]
      rfl
    | some symbol =>
      let keep (kept : PlanState β) : PlanState β := { kept with compiled := some symbol }
      refine ⟨_, keep state, run_bind_eq_some.mpr ⟨state, start, run_findPlan found, ?_⟩,
        overlooks.keepPlan id keep (fun _ => rfl) fair, ?_, rfl, rfl, ?_⟩
      · -- Compiling has run no advice, so that the plan is still not compiled.
        rw [held, compileFrom_eq engine natural, pure_bind]
        refine run_bind_eq_some.mpr ⟨state, start, run_findPlan found, ?_⟩
        rw [held]
        rfl
      · rw [plan?_modify, found]
        rfl
      · refine ⟨serves.target, serves.use, fun other same => ?_, serves.linked⟩
        rw [given]
        exact same

/-- Without compile advices linking a plan is linking the natural symbol of its slot. -/
theorem run_link_of_serves :
    ∃ finish after, (engine.link id slot.natural).run start =
        some (slot.linked joinpoint, finish) ∧
      R start finish ∧ finish.world.plan? id = some after ∧ after.plan = state.plan ∧
      after.Serves slot joinpoint := by
  cases held : state.linked with
  | some core =>
    -- What has been kept is the core of the natural symbol.
    refine ⟨start, state, run_bind_eq_some.mpr ⟨state, start, run_findPlan found, ?_⟩, fair,
      found, rfl, serves⟩
    rw [held, serves.linked core held]
    rfl
  | none =>
    obtain ⟨compiled, after, compiles, alike, present, same, unlinked, still⟩ :=
      run_compile_of_serves engine overlooks fair found serves natural
    -- The plan has not been linked meanwhile, as compiling has run no advice.
    have still' : after.linked = none := unlinked.trans held
    cases given : slot.natural with
    | none =>
      rw [given] at compiles
      refine ⟨compiled, after, ?_, alike, present, same, still⟩
      simp only [link, StateT.run_bind, run_findPlan found, Option.bind_eq_bind, Option.bind_some,
        held, compiles, given, Slot.linked]
      rfl
    | some symbol =>
      rw [given] at compiles
      cases links : joinpoint.link symbol slot.target.label with
      | error fault =>
        refine ⟨compiled, after, ?_, alike, present, same, still⟩
        simp only [link, StateT.run_bind, run_findPlan found, Option.bind_eq_bind,
          Option.bind_some, held, compiles, given, Slot.linked, links, serves.use, serves.target]
        rfl
      | ok core =>
        let keep (kept : PlanState β) : PlanState β := { kept with linked := some core }
        have linked : slot.linked joinpoint = .ok core := by
          simp only [Slot.linked, given, links]
          rfl
        have kept := overlooks.keepPlan id keep (fun _ => rfl)
          (overlooks.trans (overlooks.symm alike) alike)
        refine ⟨_, keep after, ?_, overlooks.trans alike kept, ?_, same, ?_⟩
        · simp only [link, StateT.run_bind, run_findPlan found, Option.bind_eq_bind,
            Option.bind_some, held, compiles, links, serves.use, serves.target,
            run_findPlan present, still', linked]
          rfl
        · rw [plan?_modify, present]
          rfl
        · refine ⟨still.target, still.use, still.compiled, fun other known => ?_⟩
          obtain rfl := Option.some.inj known
          exact linked

end Plans

variable {engine : Engine β τ}

/-- A joinpoint takes the value of its own core. -/
theorem checkValue_of_runCore {joinpoint : Joinpoint} {symbol : Symbol β} {core : Core β}
    {label : String} {context : AdviceContext β} {start finish : State β τ} {value : Value}
    (links : joinpoint.link symbol label = .ok core)
    (ran : (engine.runCore core context).run start = some (.ok value, finish))
    (advice : String) : joinpoint.checkValue .around advice label value = .ok () := by
  cases joinpoint with
  | call | get | set => rfl
  | construction =>
    cases symbol with
    | method | property => cases links
    | constructor chain =>
      cases links
      unfold runCore at ran
      -- A constructor gives the instance that it was run on.
      cases given : context.receiver with
      | none =>
        rw [given] at ran
        cases ran
      | some receiver =>
        rw [given] at ran
        obtain ⟨outcome, between, _, ends⟩ := run_bind_eq_some.mp ran
        obtain ⟨same, rfl⟩ := run_pure_eq_some.mp ends
        cases outcome with
        | error error => cases same
        | ok =>
          cases same
          rfl

/-- Running the natural symbol of a slot is linking it and running the core. -/
theorem recordNatural_eq {slot : Slot β} {joinpoint : Joinpoint} {receiver : Option InstanceId}
    {args : List Value} : engine.recordNatural slot joinpoint receiver args =
    match slot.linked joinpoint with
    | .error error => pure (.error error, [])
    | .ok core =>
      let context := (Invocation.begin slot.target [] receiver args).context
      (fun ended => (ended, [.core core context ended])) <$> engine.runCore core context := by
  -- The cases are those of linking; only a core is run.
  unfold recordNatural Slot.linked
  cases slot.natural with
  | none => rfl
  | some symbol =>
    dsimp only
    cases joinpoint.link symbol slot.target.label with
    | error fault => rfl
    | ok core => exact (map_eq_pure_bind _ _).symm

end Engine

end AspectWeaving
