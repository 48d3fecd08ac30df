import AspectWeaving.Proofs.Engine.Cores
import AspectWeaving.Proofs.Engine.Notes

/-! What the calls of an invocation stand for: each is one run of a body of the host or of the core,
and nothing else happens to the state from the first of them to the last. -/

namespace AspectWeaving.Engine

variable {β τ : Type}

mutual

/-- Calls that happen one after the other and are all that happens to the state. The call of the
core is one run of it in its context. The call of an advice is one run of the program that the host
has for its body and the invocation as it was seen. -/
inductive Happen (engine : Engine β τ) (core : Core β) :
    State β τ → List (Call β) → State β τ → Prop where
  | nil {state} : Happen engine core state [] state
  | core {context ended start between rest finish}
      (runs : engine.RunsIn core context start ended between)
      (others : Happen engine core between rest finish) :
      Happen engine core start (.core core context ended :: rest) finish
  | advice {advice seen proceeds returned left start between rest finish}
      (acts : Acts engine core (engine.host.advice advice.body seen) start proceeds
        (returned, left) between)
      (others : Happen engine core between rest finish) :
      Happen engine core start (.advice advice seen proceeds returned :: rest) finish

/-- The program of an advice runs to its end. Each request that it makes is served once, and each
time it proceeds the calls made meanwhile happen, and how they ended is the answer. -/
inductive Acts (engine : Engine β τ) (core : Core β) :
    AdviceAction β τ (Except ExecutionError (Option Value) × AdviceContext β) → State β τ →
      List (Proceeding β) → Except ExecutionError (Option Value) × AdviceContext β →
        State β τ → Prop where
  | done {result state} : Acts engine core (.done result) state [] result state
  | served {request next start answer between proceeds result finish}
      (serves : (engine.serve request).run start = some (answer, between))
      (goes : Acts engine core (next answer) between proceeds result finish) :
      Acts engine core (.ask (.plain request) next) start proceeds result finish
  | proceeded {context next start calls ended left between proceeds result finish}
      (inside : Happen engine core start calls between)
      (goes : Acts engine core (next (ended, left)) between proceeds result finish) :
      Acts engine core (.ask (.proceed context) next) start ((calls, ended) :: proceeds) result
        finish

end

variable {engine : Engine β τ} {core : Core β}

/-- Calls that happen after others happen after them all. -/
theorem Happen.append {start between finish : State β τ} {early late : List (Call β)}
    (first : engine.Happen core start early between)
    (second : engine.Happen core between late finish) :
    engine.Happen core start (early ++ late) finish := by
  -- The induction is on the calls that come first.
  induction early generalizing start with
  | nil =>
    cases first
    exact second
  | cons call rest ih =>
    cases first with
    | core runs others => exact .core runs (ih others)
    | advice acts others => exact .advice acts (ih others)

/-- A recorded run whose notes are all that happens to the state. -/
def Tells {α : Type} (engine : Engine β τ) (core : Core β) (recorded : Recorded β τ α) : Prop :=
  ∀ ⦃before result calls after⦄, recorded.Gives before result calls after →
    engine.Happen core before.2 calls after.2

variable {α γ : Type} {reachable : Nat → Option (Recorded β τ (Except ExecutionError Value))}

/-- A result alone tells that nothing has happened. -/
theorem tells_pure (result : α) : engine.Tells core (pure result) := by
  -- Nothing is done and nothing is told.
  intro before given calls after gives
  obtain ⟨_, rfl, rfl⟩ := Noted.gives_pure.mp gives
  exact .nil

/-- Two runs one after the other tell what has happened if both do. -/
theorem Tells.bind {first : Recorded β τ α} {second : α → Recorded β τ γ}
    (early : engine.Tells core first) (late : ∀ result, engine.Tells core (second result)) :
    engine.Tells core (first >>= second) := by
  intro before given calls after gives
  -- The calls of the first run come before those of the second.
  obtain ⟨result, _, between, _, starts, goes, rfl⟩ := Noted.gives_bind.mp gives
  exact (early starts).append (late result goes)

/-- A run without notes need only leave the state alone. -/
theorem tells_liftM {plain : LayerRun β τ α}
    (still : ∀ ⦃invocation state result left finish⦄,
      (plain.run invocation).run state = some ((result, left), finish) → finish = state) :
    engine.Tells core (liftM plain) := by
  -- Nothing is told, and the state stays as it is.
  intro before given calls after gives
  obtain ⟨rfl, ran⟩ := Noted.gives_liftM.mp gives
  rw [still ran]
  exact .nil

/-- Looking at the invocation does nothing to the state. -/
theorem tells_get :
    engine.Tells core (liftM (MonadState.get : LayerRun β τ (Invocation β))) :=
  tells_liftM fun _ _ _ _ _ ran => by cases ran; rfl

/-- Changing the invocation does nothing to the state. -/
theorem tells_modify (change : Invocation β → Invocation β) :
    engine.Tells core (liftM (modify change : LayerRun β τ PUnit)) :=
  tells_liftM fun _ _ _ _ _ ran => by cases ran; rfl

/-- Looking at the value does nothing to the state. -/
theorem tells_getValue : engine.Tells core (liftM (getValue : LayerRun β τ Value)) :=
  tells_liftM fun _ _ _ _ _ ran => by cases ran; rfl

/-- Taking a value or refusing it does nothing to the state. -/
theorem tells_substitute (plan : Plan β) (advice : Advice β) (value : Value) :
    engine.Tells core (liftM (substitute plan advice value : LayerRun β τ _)) := by
  refine tells_liftM fun invocation state verdict left finish taken => ?_
  -- Whatever the joinpoint says, only the invocation may change.
  cases judged : plan.joinpoint.checkValue advice.phase advice.key plan.target.label value <;>
  · simp only [substitute, judged] at taken
    cases taken
    rfl

/-- Recording the core tells of one run of it. -/
theorem tells_recordCore (context : AdviceContext β) :
    engine.Tells core (engine.recordCore core context) := by
  intro before given calls after gives
  obtain ⟨ended, _, between, _, runs, noted, rfl⟩ := Noted.gives_bind.mp gives
  obtain ⟨rfl, ran, _⟩ := Noted.gives_lift.mp runs
  -- The run is noted with the context that it was in and how it ended.
  obtain ⟨_, ends, rfl⟩ := Noted.gives_tell_bind.mp noted
  obtain ⟨_, rfl, rfl⟩ := Noted.gives_pure.mp ends
  exact .core (run_runCore_eq_some.mp ran) .nil

section Advices

variable (inside : ∀ level layer, reachable level = some layer → engine.Tells core layer)
include inside

/-- Proceeding tells what the layers within reach tell. -/
theorem tells_recordProceed : engine.Tells core (recordProceed reachable) := by
  refine tells_get.bind fun invocation => ?_
  split
  · exact tells_pure _
  · next layer reached =>
    -- The slot that is put back behind the layer is no part of the state.
    obtain ⟨level, _, reached⟩ := Option.bind_eq_some_iff.mp reached
    exact (inside _ _ reached).bind fun result => (tells_modify _).bind fun _ => tells_pure _

/-- The program of an advice acts as its notes tell. -/
theorem acts_of_run
    {program : AdviceAction β τ (Except ExecutionError (Option Value) × AdviceContext β)}
    {before after : Invocation β × State β τ} {proceeds : List (Proceeding β)}
    {result : Except ExecutionError (Option Value) × AdviceContext β}
    (gives : Noted.Gives (program.run (engine.serveRecorded reachable)) before result proceeds
      after) :
    engine.Acts core program before.2 proceeds result after.2 := by
  -- The induction is on the program.
  induction program generalizing before proceeds with
  | done given =>
    obtain ⟨rfl, rfl, rfl⟩ := Noted.gives_pure.mp gives
    exact .done
  | ask asked next ih =>
    obtain ⟨answer, early, between, late, answered, goes, rfl⟩ := Noted.gives_bind.mp gives
    have later := ih answer goes
    cases asked with
    | plain request =>
      -- A request that any body may make takes no note.
      obtain ⟨rfl, served, _⟩ := Noted.gives_lift.mp answered
      exact .served served later
    | proceed context =>
      -- What is called meanwhile becomes one note, and it has happened.
      rw [serveRecorded, modifyContext, Noted.gives_modify_bind, Noted.gives_liftM_bind]
        at answered
      obtain ⟨⟨ended, calls⟩, finished, ran, noted⟩ := answered
      have ran : (recordProceed reachable).Gives ({ before.1 with context }, before.2) ended calls
        finished := ran
      have happened := tells_recordProceed inside ran
      obtain ⟨_, ends, rfl⟩ := Noted.gives_tell_bind.mp noted
      rw [Noted.gives_get_bind] at ends
      obtain ⟨rfl, rfl, rfl⟩ := Noted.gives_pure.mp ends
      exact .proceeded happened later

/-- Recording an advice tells of one run of its body. -/
theorem tells_recordAdvice (advice : Advice β) :
    engine.Tells core (engine.recordAdvice advice reachable) := by
  intro before returned calls after gives
  rw [recordAdvice, Noted.gives_get_bind, Noted.gives_liftM_bind] at gives
  obtain ⟨⟨⟨answer, context⟩, proceeds⟩, between, ran, noted⟩ := gives
  -- The context that the advice leaves is put back, and the note is taken.
  obtain ⟨_, ends, rfl⟩ := Noted.gives_tell_bind.mp (Noted.gives_modify_bind.mp noted)
  obtain ⟨rfl, rfl, rfl⟩ := Noted.gives_pure.mp ends
  exact .advice (acts_of_run inside ran) .nil

end Advices

/-- Recording an advice from which no layer is within reach tells of one run of its body. -/
theorem tells_recordAdvice_nowhere (advice : Advice β) :
    engine.Tells core (engine.recordAdvice advice recordedNowhere) :=
  -- There is no layer within reach.
  tells_recordAdvice (fun _ _ reached => by cases reached) advice

/-- Recording observers tells what has happened. -/
theorem tells_recordObservers (label : String) (advices : List (Advice β)) :
    engine.Tells core (engine.recordObservers label advices) := by
  -- The induction is on the advices that are still to be called.
  induction advices with
  | nil => exact tells_pure _
  | cons advice rest ih =>
    refine (tells_recordAdvice_nowhere advice).bind fun returned => ?_
    -- Only an advice that returned nothing lets the next one be called.
    rcases returned with error | _ | value
    · exact tells_pure _
    · exact ih
    · exact tells_pure _

/-- Recording substitutes tells what has happened. -/
theorem tells_recordSubstitutes (plan : Plan β) (advices : List (Advice β)) :
    engine.Tells core (engine.recordSubstitutes plan advices) := by
  -- The induction is on the advices that are still to be called.
  induction advices with
  | nil => exact tells_getValue.bind fun _ => tells_pure _
  | cons advice rest ih =>
    refine (tells_recordAdvice_nowhere advice).bind fun returned => ?_
    rcases returned with error | _ | value
    · exact tells_pure _
    · exact ih
    · -- A value that is refused ends the sequence.
      refine (tells_substitute plan advice value).bind fun verdict => ?_
      cases verdict with
      | error error => exact tells_pure _
      | ok => exact ih

/-- Recording the innermost layer tells what has happened. -/
theorem tells_recordInnermost (plan : Plan β) :
    engine.Tells core (engine.recordInnermost plan core) := by
  refine (tells_recordObservers _ _).bind fun verdict => ?_
  cases verdict with
  | error error => exact tells_pure _
  | ok =>
    refine tells_get.bind fun seen => (tells_recordCore _).bind fun ended => ?_
    cases ended with
    | ok value => exact (tells_modify _).bind fun _ => tells_recordSubstitutes plan _
    | error error =>
      dsimp only
      -- An error is the end, or it is told to the after-throw advices.
      split
      · exact tells_pure _
      · refine (tells_modify _).bind fun _ => (tells_modify _).bind fun _ => ?_
        refine (tells_recordSubstitutes plan _).bind fun _ => ?_
        exact (tells_modify _).bind fun _ => tells_pure _

/-- Recording a layer tells what has happened. -/
theorem tells_recordLayer (plan : Plan β) (level : Nat) (around : List (Advice β)) :
    engine.Tells core (engine.recordLayer plan core level around) := by
  -- The induction is on the around advices, from the outside to the inside.
  induction around generalizing level with
  | nil =>
    refine tells_get.bind fun _ => (tells_modify _).bind fun _ => ?_
    refine (tells_recordInnermost plan).bind fun _ => ?_
    exact (tells_modify _).bind fun _ => tells_pure _
  | cons advice inner ih =>
    -- Only the next layer is within reach.
    have inside (reached : Nat) (layer : Recorded β τ (Except ExecutionError Value))
        (found : (if reached = level + 1 then
          some (engine.recordLayer plan core (level + 1) inner) else none) = some layer) :
        engine.Tells core layer := by
      split at found <;> cases found
      exact ih (level + 1)
    refine tells_get.bind fun _ => (tells_modify _).bind fun _ => ?_
    refine (tells_recordAdvice inside advice).bind fun returned => ?_
    refine (tells_modify _).bind fun _ => ?_
    rcases returned with error | _ | value
    · exact tells_pure _
    · exact tells_getValue.bind fun _ => tells_pure _
    · refine (tells_substitute plan advice value).bind fun verdict => ?_
      cases verdict with
      | error error => exact tells_pure _
      | ok => exact tells_getValue.bind fun _ => tells_pure _

/-- Recording an invocation tells what has happened. -/
theorem tells_recordPhases (plan : Plan β) :
    engine.Tells core (engine.recordPhases plan core) := by
  refine (tells_recordLayer plan 0 _).bind fun result => ?_
  -- After advices are called if there are any.
  split
  · exact tells_pure _
  · refine (tells_modify _).bind fun _ => (tells_recordObservers _ _).bind fun verdict => ?_
    cases verdict with
    | error error => exact tells_pure _
    | ok => exact tells_get.bind fun _ => tells_pure _

end AspectWeaving.Engine
