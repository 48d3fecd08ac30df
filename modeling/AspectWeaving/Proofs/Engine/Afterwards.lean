import AspectWeaving.Proofs.Engine.Layering

/-! After advices that return nothing: an error of the layers stays the end of the invocation, and a
value stays it as far as they leave it in the context. -/

namespace AspectWeaving

variable {β τ : Type}

/-- A call of an advice that returns normally and without a value. -/
def Call.Silent : Call β → Prop
  | .advice _ _ _ returned => returned = .ok none
  | .core _ _ _ => False

/-- Observers that return nothing end well. -/
theorem InTurn.ended_of_silent {label : String} {advices : List (Advice β)}
    {calls : List (Call β)} {ended : Except ExecutionError Unit}
    (turns : InTurn (observed label) advices calls ended) (silent : ∀ call ∈ calls, call.Silent) :
    ended = .ok () := by
  -- The induction is on the calls, of which only the last can have failed.
  induction turns with
  | nil => rfl
  | stop refused bad =>
    have quiet := silent _ List.mem_cons_self
    rw [quiet] at bad
    contradiction
  | next refused good others ih =>
    exact ih fun call mem => silent call (List.mem_cons_of_mem _ mem)

/-- With nothing but the context changed since the layers have ended, an invocation ends as they
did, a value being the one in the context. -/
theorem Invocation.outcome_of_settle {layered left : Invocation β}
    {produced : Except ExecutionError Value} (quiet : layered.error = none)
    (kept : (layered.settle produced).Kept left) :
    left.outcome = produced.map fun _ => left.context.value := by
  rw [kept]
  cases produced with
  | error error => rfl
  | ok value =>
    -- There is no error to end with, so that the value is the end.
    unfold outcome settle
    simp [quiet, Except.map]

namespace Engine

variable {engine : Engine β τ}

/-- After advices are called on what the layers have left, and if they end well the invocation ends
with what they leave in it. -/
theorem gives_recordPhases {plan : Plan β} {core : Core β}
    {before layered left : Invocation β × State β τ} {produced : Except ExecutionError Value}
    {layers calls : List (Call β)}
    (runs : (engine.recordLayer plan core 0 (plan.ofPhase .around).reverse).Gives before produced
      layers layered)
    (observes : (engine.recordObservers plan.target.label (plan.ofPhase .after)).Gives
      (layered.1.settle produced, layered.2) (.ok ()) calls left)
    (outcome : left.1.outcome = produced.map fun _ => left.1.context.value) :
    ∃ last, (engine.recordPhases plan core).Gives before
      (produced.map fun _ => left.1.context.value) (layers ++ calls) (last, left.2) := by
  rw [recordPhases]
  by_cases unwatched : (plan.ofPhase .after).isEmpty
  · -- Without after advices the layers have the last word, and the value is theirs.
    rw [List.isEmpty_iff.mp unwatched] at observes
    obtain ⟨-, rfl, rfl⟩ := Noted.gives_pure.mp observes
    refine ⟨layered.1, Noted.gives_bind.mpr ⟨produced, layers, layered, [], runs, ?_, rfl⟩⟩
    rw [if_pos unwatched, Noted.gives_pure]
    refine ⟨?_, rfl, rfl⟩
    cases produced <;> rfl
  · refine ⟨left.1, Noted.gives_bind.mpr ⟨produced, layers, layered, calls, runs, ?_, rfl⟩⟩
    rw [if_neg unwatched, Noted.gives_modify_bind]
    -- What the invocation ends with is looked up once all after advices have been called.
    refine Noted.gives_bind.mpr ⟨.ok (), calls, left, [], observes, ?_, (List.append_nil _).symm⟩
    rw [Noted.gives_get_bind, Noted.gives_pure]
    exact ⟨outcome.symm, rfl, rfl⟩

/-- If the after advices return nothing an invocation ends as its layers did, but with the value
that is in the context at last. -/
theorem run_runPhases {plan : Plan β} {core : Core β} {invocation layered : Invocation β}
    {start between : State β τ} {produced : Except ExecutionError Value} {calls : List (Call β)}
    {verdict : Except ExecutionError Unit} {left : Invocation β × State β τ}
    (quiet : invocation.error = none)
    (layers : ((engine.runLayers plan core).run invocation).run start =
      some ((produced, layered), between))
    (observes : (engine.recordObservers plan.target.label (plan.ofPhase .after)).Gives
      (layered.settle produced, between) verdict calls left)
    (silent : ∀ call ∈ calls, call.Silent) :
    ∃ last, ((engine.runPhases plan core).run invocation).run start =
      some ((produced.map fun _ => left.1.context.value, last), left.2) := by
  obtain rfl := (inTurn_of_recordObservers observes).ended_of_silent silent
  rw [runLayers, ← erase_recordLayer] at layers
  obtain ⟨early, runs⟩ : ∃ early, (engine.recordLayer plan core 0
      (plan.ofPhase .around).reverse).Gives (invocation, start) produced early (layered, between) :=
    Noted.exists_gives layers
  -- The layers leave no error behind, so that the only one after them is that of their end.
  have cleared : layered.error = none :=
    (confined_recordLayer plan core 0 _ runs quiet).error_eq.trans quiet
  have outcome := Invocation.outcome_of_settle cleared (kept_of_recordObservers observes)
  obtain ⟨last, gives⟩ := gives_recordPhases runs observes outcome
  rw [← erase_recordPhases]
  exact ⟨last, gives.run_erase⟩

/-- An execution whose plan links, and whose after advices all return nothing: the layers have
produced an end, and the after advices have left an invocation and a state. -/
inductive EndsSilently (engine : Engine β τ) (id : PlanId) (natural : Option (Symbol β))
    (receiver : Option InstanceId) (args : List Value) (start : State β τ)
    (produced : Except ExecutionError Value) (left : Invocation β × State β τ) : Prop where
  | intro {core : Core β} {linked between : State β τ} {state : PlanState β}
      {layered : Invocation β} {verdict : Except ExecutionError Unit} {calls : List (Call β)}
      (links : (engine.link id natural).run start = some (.ok core, linked))
      (found : linked.world.plan? id = some state)
      (layers : ((engine.runLayers state.plan core).run
        (.begin state.plan.target state.plan.annotations receiver args)).run linked =
          some ((produced, layered), between))
      (observes : (engine.recordObservers state.plan.target.label
        (state.plan.ofPhase .after)).Gives (layered.settle produced, between) verdict calls left)
      (silent : ∀ call ∈ calls, call.Silent)

/-- Whatever a host does, an execution whose plan links and whose after advices return nothing ends
as its layers did but for the value, which is the one that the after advices have left in the
context. So it ends exactly as the layers did if and only if these failed, or this is the value they
produced. -/
theorem execute_settles (engine : Engine β τ) {id : PlanId} {natural : Option (Symbol β)}
    {receiver : Option InstanceId} {args : List Value} {start : State β τ}
    {produced : Except ExecutionError Value} {left : Invocation β × State β τ}
    (ends : engine.EndsSilently id natural receiver args start produced left) :
    ∃ result, (engine.execute id natural receiver args).run start = some (result, left.2) ∧
      result = (produced.map fun _ => left.1.context.value) ∧
      (result = produced ↔ ∀ value, produced = .ok value → left.1.context.value = value) := by
  obtain ⟨links, found, layers, observes, silent⟩ := ends
  obtain ⟨last, phases⟩ := run_runPhases rfl layers observes silent
  refine ⟨_, ?_, rfl, ?_⟩
  · refine run_bind_eq_some.mpr ⟨_, _, links, ?_⟩
    refine run_bind_eq_some.mpr ⟨_, _, run_find_eq_some.mpr ⟨found, rfl⟩, ?_⟩
    exact run_bind_eq_some.mpr ⟨_, left.2, phases, rfl⟩
  · -- An error is kept whatever the context holds.
    cases produced <;> simp [Except.map]

/-- A host whose methods return their code, and whose advices put theirs into the context, take the
arguments out of it and return nothing. -/
def rewritingHost : Host Value Unit where
  initializer _ _ _ := .done (.ok ())
  method value _ _ := .done (.ok value)
  getter _ _ := .done (.ok .null)
  setter _ _ _ := .done (.ok ())
  stub _ _ _ := .done (.ok ())
  compile _ context := .done (.ok none, context)
  advice value invocation := .done (.ok none, { invocation.context with args := [], value })

/-- A plan for a method with an after advice. -/
def rewrittenPlan (value : Value) : Plan Value where
  target :=
    let root : Target := .root ⟨⟨0⟩, "A", "A"⟩ (.ofClass ⟨0⟩)
    .method root.owner (.ofMethod ⟨0⟩ "m") "m" root root
  joinpoint := .call
  annotations := []
  advices := [⟨"rewrite", ⟨.after, .of .method [] "*"⟩, "aspect", ⟨.lowest, 0, .lowest, 0⟩, value⟩]

/-- A state with the plan. -/
def rewrittenState (value : Value) : State Value Unit :=
  ⟨{ World.ofConfig .standard with plans := #[.fresh (rewrittenPlan value)] }, ()⟩

/-- An after advice that takes the arguments out of the context and leaves the value as it is
changes nothing of how the execution ends. -/
theorem execute_settles_unchanged :
    let engine := rewritingHost.engine 0
    ∃ left, engine.EndsSilently ⟨0⟩ (some (.method (.token 1))) (some ⟨0⟩) [.null]
        (rewrittenState (.token 1)) (.ok (.token 1)) left ∧ left.1.context.args = [] ∧
      (engine.execute ⟨0⟩ (some (.method (.token 1))) (some ⟨0⟩) [.null]).run
        (rewrittenState (.token 1)) = some (.ok (.token 1), left.2) := by
  -- The advice is called, and what it leaves has the value that the method returned.
  have ended : ∃ left, (rewritingHost.engine 0).EndsSilently ⟨0⟩ (some (.method (.token 1)))
      (some ⟨0⟩) [.null] (rewrittenState (.token 1)) (.ok (.token 1)) left ∧
        left.1.context.args = [] ∧ left.1.context.value = .token 1 := by
    refine ⟨(_, _), .intro rfl rfl rfl rfl fun call mem => ?_, rfl, rfl⟩
    obtain rfl := List.mem_singleton.mp mem
    rfl
  obtain ⟨left, ends, args, kept⟩ := ended
  obtain ⟨result, ran, -, same⟩ := execute_settles _ ends
  refine ⟨left, ends, args, ?_⟩
  rwa [same.mpr fun value produced => by cases produced; exact kept] at ran

/-- An after advice that returns nothing replaces the value that the method has returned. -/
theorem silent_not_kept :
    let engine := rewritingHost.engine 0
    ∃ left, engine.EndsSilently ⟨0⟩ (some (.method (.token 1))) (some ⟨0⟩) []
        (rewrittenState (.token 2)) (.ok (.token 1)) left ∧
      (engine.execute ⟨0⟩ (some (.method (.token 1))) (some ⟨0⟩) []).run
        (rewrittenState (.token 2)) = some (.ok (.token 2), left.2) := by
  -- The one call is that of the after advice, which returns nothing but has rewritten the value.
  refine ⟨(_, _), .intro rfl rfl rfl rfl fun call mem => ?_, rfl⟩
  obtain rfl := List.mem_singleton.mp mem
  rfl

end Engine

end AspectWeaving
