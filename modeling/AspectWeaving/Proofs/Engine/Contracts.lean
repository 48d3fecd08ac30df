import AspectWeaving.Proofs.Engine.Afterwards
import AspectWeaving.Proofs.Engine.Fatality

/-! The contracts of the phases: what the advices of each phase must not return, and what becomes of
an invocation during which one of them returns it all the same. -/

namespace AspectWeaving

variable {β τ : Type}

/-- A call of an advice of a phase. -/
def Call.IsOf (phase : Phase) : Call β → Prop
  | .advice called _ _ _ => called.phase = phase
  | .core _ _ _ => False

/-- The calls of one run of a layer, of those that the layers of an invocation make: the run of the
outermost layer, or one that an advice proceeds to during another run. -/
inductive RunAmong (layers : List (Call β)) : List (Call β) → Prop where
  | outermost : RunAmong layers layers
  | inside {run advice seen proceeds returned made} (outer : RunAmong layers run)
      (mem : Call.advice advice seen proceeds returned ∈ run) (use : made ∈ proceeds) :
      RunAmong layers made.1

/-- No advice is called where nothing is. -/
theorem passedOn_nil {error : ExecutionError} : PassedOn error ([] : List (Call β)) :=
  -- There are no calls.
  fun _ _ _ _ among => absurd among Call.not_among_nil

/-- An error is passed on during the call of an advice if that advice passes it on and so do those
that are called while it proceeds. -/
theorem passedOn_advice {error : ExecutionError} {advice : Advice β} {seen : Invocation β}
    {proceeds : List (Proceeding β)} {returned : Except ExecutionError (Option Value)} :
    PassedOn error [.advice advice seen proceeds returned] ↔
      (advice.phase = .around → ∀ made ∈ proceeds, made.2 = .error error →
        returned = .error error) ∧ ∀ made ∈ proceeds, PassedOn error made.1 := by
  -- A call among one call is this one, or it was made by proceeding from it.
  unfold PassedOn
  simp only [Call.among_advice]
  constructor
  · intro passed
    refine ⟨passed _ _ _ _ (.inl rfl), fun made use advice seen proceeds returned among => ?_⟩
    exact passed _ _ _ _ (.inr ⟨made, use, among⟩)
  · intro ⟨here, inside⟩ _ _ _ _ among
    rcases among with same | ⟨made, use, among⟩
    · cases same
      exact here
    · exact inside made use _ _ _ _ among

namespace Plan

/-- The breach that an advice commits by returning a value which its phase, at this joinpoint, must
not return. -/
inductive Breaks (plan : Plan β) (advice : Advice β) (value : Value) : AdviceError → Prop where
  /-- Before and after advices only look on. -/
  | observer (observing : advice.phase = .before ∨ advice.phase = .after) :
      Breaks plan advice value
        (.unexpectedReturn advice.phase advice.key plan.target.label)
  /-- What a setter gives is not for the advices behind it to replace. -/
  | setter (writes : plan.joinpoint = .set)
      (following : advice.phase = .afterReturn ∨ advice.phase = .afterThrow) :
      Breaks plan advice value (.setterSubstitution advice.key plan.target.label)
  /-- The instance that is made can be replaced by an instance only. -/
  | maker (makes : plan.joinpoint = .construction)
      (replacing : advice.phase = .around ∨ advice.phase = .afterReturn ∨
        advice.phase = .afterThrow)
      (other : ∀ id, value ≠ .object id) :
      Breaks plan advice value (.notAnInstance advice.key plan.target.label)

/-- A breach is committed among calls. -/
def Broken (plan : Plan β) (breach : AdviceError) (calls : List (Call β)) : Prop :=
  ∃ advice seen proceeds value,
    (Call.advice advice seen proceeds (.ok (some value))).Among calls ∧
      plan.Breaks advice value breach

/-- The contracts of the phases hold in an invocation that makes the calls of its layers and those
of its after advices. As long as around advices pass errors on, an invocation that ends well is one
without a breach, and every breach in the layers, the first of them included, is the error that the
invocation ends with unless an after advice has another end for it. In any case the before advice
that commits one is the last to be called in its run of the innermost layer, whose core is not
called. -/
structure Enforces (plan : Plan β) (layers after : List (Call β))
    (ended : Except ExecutionError Value) : Prop where
  inner : ∀ call ∈ layers, ¬call.IsOf .after
  outer : ∀ call ∈ after, call.IsOf .after
  clean : (∀ error, PassedOn error layers) → ∀ value, ended = .ok value →
    ∀ breach, ¬plan.Broken breach (layers ++ after)
  reported : (∀ error, PassedOn error layers) → (∀ call ∈ after, call.Silent) →
    ∀ breach, plan.Broken breach layers → ended = .error (.advice breach)
  barred : ∀ run, RunAmong layers run → ∀ advice seen proceeds value,
    Call.advice advice seen proceeds (.ok (some value)) ∈ run → advice.phase = .before →
      ∃ early, run = early ++ [.advice advice seen proceeds (.ok (some value))] ∧
        ∀ call ∈ early, call.IsOf .before ∧ call.Silent

variable {plan : Plan β} {advice : Advice β} {value : Value} {breach : AdviceError}
  {calls : List (Call β)} {ended : Except ExecutionError Value}

/-- A value is refused exactly if returning it is a breach, and for that breach. -/
theorem allows_eq_error_iff :
    plan.allows advice value = .error breach ↔ plan.Breaks advice value breach := by
  constructor
  · intro refused
    unfold allows at refused
    -- The phase decides alone, or leaves it to the joinpoint.
    split at refused
    · next phase =>
      cases refused
      exact .observer (.inl phase)
    · next phase =>
      cases refused
      exact .observer (.inr phase)
    · unfold Joinpoint.checkValue at refused
      split at refused
      case h_4 joinpoint phase | h_5 joinpoint phase =>
        cases refused
        exact .setter joinpoint (by simp [phase])
      case h_6 => contradiction
      all_goals
        next makes phase =>
        split at refused
        · contradiction
        · next other =>
          cases refused
          refine .maker makes (by simp [phase]) fun id same => ?_
          simp [same, Value.asObject?] at other
  · intro breaks
    cases breaks with
    | observer observing => cases observing with
      | inl phase => simp [allows, phase]
      | inr phase => simp [allows, phase]
    | setter writes following =>
      rcases following with phase | phase <;> simp [allows, phase, writes, Joinpoint.checkValue]
    | maker makes replacing other =>
      -- Only an instance would pass.
      have none : value.asObject?.isSome = false := by
        cases value <;> simp_all [Value.asObject?]
      rcases replacing with phase | phase | phase <;>
        simp [allows, phase, makes, Joinpoint.checkValue, none]

/-- A breach is a fatal error that is raised. -/
theorem Broken.raised (broken : plan.Broken breach calls) :
    plan.Raised (.advice breach) calls := by
  -- The breach is what the plan makes of the value that was returned.
  obtain ⟨advice, seen, proceeds, value, among, breaks⟩ := broken
  exact ⟨_, among, value, breach, rfl, allows_eq_error_iff.mpr breaks, rfl⟩

end Plan

section Turns

variable {verdict : Advice β → Except ExecutionError (Option Value) → Except ExecutionError Unit}
  {plan : Plan β} {advices : List (Advice β)} {calls : List (Call β)} {advice : Advice β}
  {seen : Invocation β} {proceeds : List (Proceeding β)}
  {returned : Except ExecutionError (Option Value)}

/-- Advices that are called in turn can proceed nowhere. -/
theorem InTurn.refused_of_mem {ended : Except ExecutionError Unit}
    (turns : InTurn verdict advices calls ended)
    (mem : Call.advice advice seen proceeds returned ∈ calls) :
    ∀ made ∈ proceeds, Refused made := by
  -- The induction is on the calls.
  induction turns with
  | nil => cases mem
  | stop refused bad =>
    cases List.mem_singleton.mp mem
    exact refused
  | next refused good others ih =>
    rcases List.mem_cons.mp mem with one | other
    · cases one
      exact refused
    · exact ih other

/-- Observers are called in turn up to the first that returns a value, and all those before it have
returned nothing. -/
theorem InTurn.last_of_value {label : String} {ended : Except ExecutionError Unit} {value : Value}
    (turns : InTurn (observed label) advices calls ended)
    (mem : Call.advice advice seen proceeds (.ok (some value)) ∈ calls) :
    ∃ early, calls = early ++ [.advice advice seen proceeds (.ok (some value))] ∧
      ended ≠ .ok () ∧ ∀ call ∈ early, call.Silent := by
  -- The induction is on the calls; one that has let the next be made is not the one with the value.
  induction turns with
  | nil => cases mem
  | stop refused bad =>
    cases List.mem_singleton.mp mem
    exact ⟨[], rfl, nofun, nofun⟩
  | next refused good others ih =>
    rcases List.mem_cons.mp mem with one | other
    · cases one
      contradiction
    · obtain ⟨early, rfl, bad, silent⟩ := ih other
      refine ⟨_ :: early, rfl, bad, ?_⟩
      intro call mem
      rcases List.mem_cons.mp mem with rfl | inside
      · -- Neither an error nor a value goes with the verdict that it got.
        rename_i own _ _
        rcases own with error | _ | given
        · contradiction
        · rfl
        · contradiction
      · exact silent call inside

/-- Calls in turn are of the phase that their advices are of. -/
theorem InTurn.isOf {phase : Phase} {ended : Except ExecutionError Unit}
    (turns : InTurn verdict advices calls ended)
    (phases : ∀ advice ∈ advices, advice.phase = phase) : ∀ call ∈ calls, call.IsOf phase := by
  -- The induction is on the calls.
  induction turns with
  | nil => exact nofun
  | stop refused bad => simpa [Call.IsOf] using phases _ List.mem_cons_self
  | next refused good others ih =>
    obtain ⟨first, later⟩ := List.forall_mem_cons.mp phases
    exact List.forall_mem_cons.mpr ⟨first, ih later⟩

end Turns

namespace Plan

variable {plan : Plan β} {core : Core β} {calls run : List (Call β)}
  {ended : Except ExecutionError Value}
  {advice : Advice β} {seen : Invocation β} {proceeds : List (Proceeding β)}
  {returned : Except ExecutionError (Option Value)}

/-- No advice of an innermost layer can proceed anywhere. -/
theorem InnermostCalls.refused_of_mem (inside : plan.InnermostCalls core calls ended)
    (mem : Call.advice advice seen proceeds returned ∈ calls) :
    ∀ made ∈ proceeds, Refused made := by
  cases inside with
  | barred barred => exact barred.refused_of_mem mem
  | returned passed follows | handled passed mild watched follows =>
    -- The call of the core lies in between and is none of an advice.
    simp only [List.mem_append, List.mem_cons, reduceCtorEq, false_or] at mem
    exact mem.elim passed.refused_of_mem follows.refused_of_mem
  | failed passed final =>
    simp only [List.mem_append, List.mem_singleton, reduceCtorEq, or_false] at mem
    exact passed.refused_of_mem mem

/-- Each run of a layer during a layer is that of a layer, unless nothing is called at all. -/
theorem LayerCalls.of_runAmong {level : Nat} (layer : plan.LayerCalls core level calls ended)
    (among : RunAmong calls run) :
    run = [] ∨ ∃ level ended, plan.LayerCalls core level run ended := by
  -- The induction is on the runs that lie around this one.
  induction among with
  | outermost => exact .inr ⟨level, ended, layer⟩
  | inside outer mem use ih =>
    rcases ih with rfl | ⟨level, ended, layer⟩
    · cases mem
    · cases layer with
      | around outside present inside ending =>
        cases List.mem_singleton.mp mem
        exact .inr ⟨_, _, inside _ use⟩
      | innermost inside => exact .inl (inside.refused_of_mem mem _ use).1

/-- A before advice that returns a value is the last to be called in its run of the innermost layer,
and those before it have returned nothing. -/
theorem InnermostCalls.last_of_value {value : Value} (inside : plan.InnermostCalls core calls ended)
    (mem : Call.advice advice seen proceeds (.ok (some value)) ∈ calls)
    (phase : advice.phase = .before) :
    ∃ early, calls = early ++ [.advice advice seen proceeds (.ok (some value))] ∧
      ∀ call ∈ early, call.IsOf .before ∧ call.Silent := by
  -- Where the before advices have passed, none of them has returned a value.
  have quiet {early : List (Call β)}
      (passed : InTurn (observed plan.target.label) (plan.ofPhase .before) early (.ok ())) :
      Call.advice advice seen proceeds (.ok (some value)) ∉ early := by
    intro mem
    obtain ⟨_, _, bad, _⟩ := passed.last_of_value mem
    exact bad rfl
  -- The advices that follow the core are of other phases.
  have follows {follow : List (Call β)} {other : Phase} {verdict : Except ExecutionError Unit}
      (turns : InTurn (substituted plan) (plan.ofPhase other) follow verdict)
      (different : other ≠ .before) :
      Call.advice advice seen proceeds (.ok (some value)) ∉ follow := by
    intro mem
    have same := turns.isOf (fun _ => phase_of_mem_ofPhase) _ mem
    exact different (same.symm.trans phase)
  cases inside with
  | barred barred =>
    obtain ⟨early, rfl, _, silent⟩ := barred.last_of_value mem
    refine ⟨early, rfl, fun call mem => ⟨?_, silent call mem⟩⟩
    exact barred.isOf (fun _ => phase_of_mem_ofPhase) call (List.mem_append_left _ mem)
  | returned passed turns | handled passed mild watched turns =>
    simp only [List.mem_append, List.mem_cons, reduceCtorEq, false_or] at mem
    exact absurd mem (not_or.mpr ⟨quiet passed, follows turns (by decide)⟩)
  | failed passed final =>
    simp only [List.mem_append, List.mem_singleton, reduceCtorEq, or_false] at mem
    exact absurd mem (quiet passed)

end Plan

namespace Engine

variable {engine : Engine β τ} {plan : Plan β} {core : Core β}
  {before after : Invocation β × State β τ} {calls : List (Call β)}
  {ended : Except ExecutionError Value}

/-- The layers and the after advices of an invocation enforce the contracts of the phases. -/
theorem enforces_of_recordPhases
    (gives : (engine.recordPhases plan core).Gives before ended calls after) :
    ∃ layers late, calls = layers ++ late ∧ plan.Enforces layers late ended := by
  obtain ⟨layers, result, late, verdict, between, rfl, runs, observes, replaced, stands⟩ :=
    phases_of_recordPhases gives
  have outermost := layerCalls_of_recordLayer rfl (Nat.zero_le _) runs
  have observing : plan.Judges (plan.ofPhase .after) (observed plan.target.label) :=
    Plan.judges_observed (.inr rfl)
  refine ⟨layers, late, rfl, ?_⟩
  constructor
  case inner =>
    intro call mem phase
    cases call with
    | advice advice seen proceeds returned => exact outermost.phase_ne_after mem phase
    | core context ended => exact phase
  case outer => exact observes.isOf fun _ => Plan.phase_of_mem_ofPhase
  case clean =>
    intro passed value good breach broken
    -- Whether in the layers or behind them, the breach is an error that the invocation ends with.
    rcases Plan.raised_append.mp broken.raised with inside | outside
    · have failed := outermost.ended_of_raised inside (passed _)
      cases verdict with
      | ok => cases good.symm.trans (stands rfl _ failed)
      | error other => cases good.symm.trans (replaced other rfl)
    · cases good.symm.trans (replaced _ (observes.ended_of_raised observing outside))
  case reported =>
    intro passed silent breach broken
    have failed := outermost.ended_of_raised broken.raised (passed _)
    exact stands (observes.ended_of_silent silent) _ failed
  case barred =>
    intro run among advice seen proceeds value mem phase
    rcases outermost.of_runAmong among with rfl | ⟨level, ended, layer⟩
    · cases mem
    · cases layer with
      | around outside present inside ending =>
        -- The advice of an outer layer is an around advice.
        cases List.mem_singleton.mp mem
        cases phase.symm.trans (Plan.phase_of_mem_ofPhase (List.mem_of_getElem? present))
      | innermost inside => exact inside.last_of_value mem phase

/-- Whatever a host does, an execution enforces the contracts of the phases; one whose plan does not
link ends with the error and calls nothing. -/
theorem execute_enforces (engine : Engine β τ) {id : PlanId} {natural : Option (Symbol β)}
    {receiver : Option InstanceId} {args : List Value} {start finish : State β τ}
    {result : Except ExecutionError Value}
    (ran : (engine.execute id natural receiver args).run start = some (result, finish)) :
    ∃ calls, (engine.recordExecute id natural receiver args).run start =
        some ((result, calls), finish) ∧
      ((∃ error, (engine.link id natural).run start = some (.error error, finish) ∧
          result = .error error ∧ calls = []) ∨
        ∃ core linked state layers after, (engine.link id natural).run start =
            some (.ok core, linked) ∧ linked.world.plan? id = some state ∧
          calls = layers ++ after ∧ state.plan.Enforces layers after result) := by
  -- The run is a recorded one without its notes.
  rw [← erase_recordExecute] at ran
  obtain ⟨⟨ended, calls⟩, recorded, rfl⟩ := run_map_eq_some.mp ran
  refine ⟨calls, recorded, (executed_of_recordExecute recorded).imp_right ?_⟩
  intro ⟨core, linked, state, _, _, links, found, runs⟩
  obtain ⟨layers, after, same, enforces⟩ := enforces_of_recordPhases runs
  exact ⟨core, linked, state, layers, after, links, found, same, enforces⟩

/-- The error of the before advice that returns a value is passed on and is how the execution ends.
-/
theorem execute_enforces_meddled :
    let plan := meddledPlan none (some (.ok none))
    ∃ layers after finish breach,
      ((headstrongHost.engine 0).recordExecute ⟨0⟩ (some (.method none)) (some ⟨0⟩) []).run
          (meddledState none (some (.ok none))) =
        some ((.error (.advice breach), layers ++ after), finish) ∧
      plan.Enforces layers after (.error (.advice breach)) ∧ (∀ error, PassedOn error layers) ∧
        (∀ call ∈ after, call.Silent) ∧ plan.Broken breach layers := by
  intro plan
  -- The run is computed; of its two calls one is made by the layers and one behind them.
  obtain ⟨breach, around, first, last, outer, inner, late, refusal, nowhere, finish, computed,
      proceeds, looks, follows, breaks⟩ :
      ∃ breach around first last outer inner late refusal nowhere finish,
        ((headstrongHost.engine 0).recordExecute ⟨0⟩ (some (.method none)) (some ⟨0⟩) []).run
            (meddledState none (some (.ok none))) = some ((.error (.advice breach),
          [.advice around outer [([.advice first inner [([], refusal)] (.ok (some .null))],
            .error (.advice breach))] (.error (.advice breach)),
          .advice last late nowhere (.ok none)]), finish) ∧
        around.phase = .around ∧ first.phase = .before ∧ last.phase = .after ∧
          plan.Breaks first .null breach :=
    ⟨_, _, _, _, _, _, _, _, _, _, rfl, rfl, rfl, rfl, .observer (.inl rfl)⟩
  have ran : ((headstrongHost.engine 0).execute ⟨0⟩ (some (.method none)) (some ⟨0⟩) []).run
      (meddledState none (some (.ok none))) = some (.error (.advice breach), finish) := by
    rw [← erase_recordExecute]
    exact run_map_eq_some.mpr ⟨_, computed, rfl⟩
  obtain ⟨calls, recorded, outcome⟩ := execute_enforces (headstrongHost.engine 0) ran
  cases computed.symm.trans recorded
  obtain ⟨_, _, _, none⟩ | ⟨core, linked, state, layers, after, links, found, same, enforces⟩ :=
    outcome
  · cases none
  cases links
  cases found
  -- The call of the around advice is one of the layers', and that of the after advice is not.
  rcases List.cons_eq_append_iff.mp same with ⟨rfl, all⟩ | ⟨rest, rfl, others⟩
  · have phase := enforces.outer (.advice around outer _ _) (all ▸ List.mem_cons_self)
    cases proceeds.symm.trans phase
  rcases List.cons_eq_append_iff.mp others with ⟨rfl, rfl⟩ | ⟨more, rfl, _⟩
  · refine ⟨_, _, finish, breach, computed, enforces, fun error => ?_, ?_, ?_⟩
    · simp [passedOn_advice, passedOn_nil, looks]
    · simp [Call.Silent]
    · exact ⟨first, inner, _, .null,
        .inside List.mem_cons_self List.mem_cons_self (.here List.mem_cons_self), breaks⟩
  · exact absurd follows (enforces.inner _ (List.mem_cons_of_mem _ List.mem_cons_self))

end Engine

end AspectWeaving
