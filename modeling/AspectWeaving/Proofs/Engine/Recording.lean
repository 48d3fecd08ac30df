import AspectWeaving.Engine.Plans
import Mathlib.Control.Monad.Writer

/-! Recorded executions: the runs of an invocation together with the calls that they make, which
are the runs themselves once the calls are left out. -/

namespace AspectWeaving

/-- A call that an invocation makes, and how it ended: an advice with the invocation as it saw it,
or a core with the context that it was run in. An advice may proceed during its call: each time is
there with the calls made meanwhile. -/
inductive Call (β : Type) where
  | advice (advice : Advice β) (seen : Invocation β)
      (proceeds : List (List (Call β) × Except ExecutionError Value))
      (returned : Except ExecutionError (Option Value))
  | core (core : Core β) (context : AdviceContext β) (ended : Except ExecutionError Value)

/-- A use of proceeding: the calls made meanwhile, and how it ended. -/
abbrev Proceeding (β : Type) : Type := List (Call β) × Except ExecutionError Value

/-- A run of a part of an invocation that takes notes. -/
abbrev Noted (ν β τ : Type) : Type → Type := WriterT (List ν) (LayerRun β τ)

/-- A run of a part of an invocation that notes its calls. -/
abbrev Recorded (β τ : Type) : Type → Type := Noted (Call β) β τ

namespace Noted

variable {ν β τ α γ : Type}

/-- A run without its notes. -/
def erase (noted : Noted ν β τ α) : LayerRun β τ α := Prod.fst <$> noted.run

/-- A result alone stays. -/
@[simp]
theorem erase_pure (result : α) : (pure result : Noted ν β τ α).erase = pure result := by
  show Prod.fst <$> (pure (result, ∅) : LayerRun β τ (α × List ν)) = _
  simp

/-- Two runs one after the other are erased one after the other. -/
@[simp]
theorem erase_bind (first : Noted ν β τ α) (second : α → Noted ν β τ γ) :
    (first >>= second).erase = first.erase >>= fun result => (second result).erase := by
  -- The writer joins the notes of both runs, and erasing forgets them.
  show Prod.fst <$> (first.run >>= fun (result, notes) =>
    (fun (last, more) => (last, notes ++ more)) <$> (second result).run) = _
  simp [erase, Functor.map_map]

/-- A run that has no notes to take is itself. -/
@[simp]
theorem erase_liftM (plain : LayerRun β τ α) : (liftM plain : Noted ν β τ α).erase = plain := by
  -- A lifted run is paired with the empty list of notes.
  show Prod.fst <$> ((fun result => (result, ∅)) <$> plain : LayerRun β τ (α × List ν)) = plain
  simp

/-- Looking at the invocation takes no notes. -/
@[simp]
theorem erase_get :
    (MonadState.get : Noted ν β τ (Invocation β)).erase = MonadState.get := erase_liftM _

/-- Changing the invocation takes no notes. -/
@[simp]
theorem erase_modify (change : Invocation β → Invocation β) :
    (modify change : Noted ν β τ PUnit).erase = modify change := erase_liftM _

/-- Taking a note has no effect. -/
@[simp]
theorem erase_tell (notes : List ν) :
    (tell notes : Noted ν β τ PUnit).erase = pure PUnit.unit := by
  show Prod.fst <$> (pure (PUnit.unit, notes) : LayerRun β τ (PUnit × List ν)) = _
  simp

/-- Serving the requests of a program with notes is serving them without. -/
theorem erase_run {Request : Type} {Answer : Request → Type}
    {note : (asked : Request) → Noted ν β τ (Answer asked)}
    {serve : (asked : Request) → LayerRun β τ (Answer asked)}
    (serves : ∀ asked, (note asked).erase = serve asked) (program : Program Request Answer α) :
    Noted.erase (program.run note) = program.run serve := by
  -- The induction is on the program.
  induction program with
  | done result => simp [Program.run]
  | ask asked next ih => simp [Program.run, serves, ih]

end Noted

namespace Engine

variable {β τ : Type}

/-- Runs the core and notes the call. -/
def recordCore (engine : Engine β τ) (core : Core β) (context : AdviceContext β) :
    Recorded β τ (Except ExecutionError Value) := do
  let ended ← (StateT.lift (engine.runCore core context) : LayerRun β τ _)
  tell [Call.core core context ended]
  return ended

/-- Runs the layer in the joinpoint slot and notes what it calls. -/
def recordProceed (reachable : Nat → Option (Recorded β τ (Except ExecutionError Value))) :
    Recorded β τ (Except ExecutionError Value) := do
  let invocation ← (MonadState.get : LayerRun β τ (Invocation β))
  match invocation.joinpoint.bind reachable with
  | none => return .error (.advice (.joinpointUnavailable invocation.context.target.label))
  | some layer =>
    let result ← layer
    (setJoinpoint invocation.joinpoint : LayerRun β τ Unit)
    return result

/-- Answers a request of a runtime advice and notes each use of proceeding. -/
def serveRecorded (engine : Engine β τ)
    (reachable : Nat → Option (Recorded β τ (Except ExecutionError Value))) :
    (request : AdviceRequest β τ) → Noted (Proceeding β) β τ request.Answer
  -- Whatever is not a use of proceeding calls nothing of this invocation.
  | .plain request => liftM (StateT.lift (engine.serve request) : LayerRun β τ _)
  | .proceed context => do
    (modifyContext fun _ => context : LayerRun β τ Unit)
    -- The calls made meanwhile become part of one note and are not passed on.
    let (result, calls) ← (recordProceed reachable).run
    tell [(calls, result)]
    return (result, ← (MonadState.get : LayerRun β τ (Invocation β)))

/-- Calls a runtime advice and notes the call. -/
def recordAdvice (engine : Engine β τ) (advice : Advice β)
    (reachable : Nat → Option (Recorded β τ (Except ExecutionError Value))) :
    Recorded β τ (Except ExecutionError (Option Value)) := do
  -- The note keeps the invocation as the advice found it.
  let seen ← (MonadState.get : LayerRun β τ (Invocation β))
  let served := (engine.host.advice advice.body seen).run (engine.serveRecorded reachable)
  let ((returned, context), proceeds) ← served.run
  (modifyContext fun _ => context : LayerRun β τ Unit)
  tell [Call.advice advice seen proceeds returned]
  return returned

/-- No layer is within reach. -/
def recordedNowhere : Nat → Option (Recorded β τ (Except ExecutionError Value)) := fun _ => none

/-- Records calls of advices that must not return a value. -/
def recordObservers (engine : Engine β τ) (label : String) :
    List (Advice β) → Recorded β τ (Except ExecutionError Unit)
  | [] => return .ok ()
  | advice :: rest => do
    match ← engine.recordAdvice advice recordedNowhere with
    | .error error => return .error error
    | .ok (some _) => return .error (.advice (.unexpectedReturn advice.phase advice.key label))
    | .ok none => recordObservers engine label rest

/-- Records calls of advices that may replace the value. -/
def recordSubstitutes (engine : Engine β τ) (plan : Plan β) :
    List (Advice β) → Recorded β τ (Except ExecutionError Value)
  | [] => return .ok (← (getValue : LayerRun β τ Value))
  | advice :: rest => do
    match ← engine.recordAdvice advice recordedNowhere with
    | .error error => return .error error
    | .ok none => recordSubstitutes engine plan rest
    | .ok (some value) =>
      match ← (substitute plan advice value : LayerRun β τ _) with
      | .error error => return .error error
      | .ok () => recordSubstitutes engine plan rest

/-- Records how the after-throw advices handle an error. -/
def recordHandlers (engine : Engine β τ) (plan : Plan β) (error : ExecutionError) :
    Recorded β τ (Except ExecutionError Value) := do
  (modify fun invocation => { invocation with error := some error } : LayerRun β τ Unit)
  (setValue .null : LayerRun β τ Unit)
  let handled ← engine.recordSubstitutes plan (plan.ofPhase .afterThrow)
  (modify fun invocation => { invocation with error := none } : LayerRun β τ Unit)
  return handled

/-- Records the innermost layer. -/
def recordInnermost (engine : Engine β τ) (plan : Plan β) (core : Core β) :
    Recorded β τ (Except ExecutionError Value) := do
  match ← engine.recordObservers plan.target.label (plan.ofPhase .before) with
  | .error error => return .error error
  | .ok () =>
    let context := (← (MonadState.get : LayerRun β τ (Invocation β))).context
    match ← engine.recordCore core context with
    | .ok value =>
      (setValue value : LayerRun β τ Unit)
      engine.recordSubstitutes plan (plan.ofPhase .afterReturn)
    | .error error =>
      if error.isFatal || (plan.ofPhase .afterThrow).isEmpty then return .error error
      else engine.recordHandlers plan error

/-- Records a layer and those inside it. -/
def recordLayer (engine : Engine β τ) (plan : Plan β) (core : Core β) :
    Nat → List (Advice β) → Recorded β τ (Except ExecutionError Value)
  | _, [] => do
    let outer := (← (MonadState.get : LayerRun β τ (Invocation β))).joinpoint
    (setJoinpoint none : LayerRun β τ Unit)
    let result ← engine.recordInnermost plan core
    (setJoinpoint outer : LayerRun β τ Unit)
    return result
  | level, advice :: inner => do
    let outer := (← (MonadState.get : LayerRun β τ (Invocation β))).joinpoint
    (setJoinpoint (some (level + 1)) : LayerRun β τ Unit)
    -- Only the next layer is within reach, and only during the call.
    let returned ← engine.recordAdvice advice fun layer =>
      if layer = level + 1 then some (recordLayer engine plan core (level + 1) inner) else none
    (setJoinpoint outer : LayerRun β τ Unit)
    match returned with
    | .error error => return .error error
    | .ok none => return .ok (← (getValue : LayerRun β τ Value))
    | .ok (some value) =>
      match ← (substitute plan advice value : LayerRun β τ _) with
      | .error error => return .error error
      | .ok () => return .ok (← (getValue : LayerRun β τ Value))

/-- Records the layers and then the after advices. -/
def recordPhases (engine : Engine β τ) (plan : Plan β) (core : Core β) :
    Recorded β τ (Except ExecutionError Value) := do
  let result ← engine.recordLayer plan core 0 (plan.ofPhase .around).reverse
  if (plan.ofPhase .after).isEmpty then return result
  (modify fun invocation => invocation.settle result : LayerRun β τ Unit)
  match ← engine.recordObservers plan.target.label (plan.ofPhase .after) with
  | .error error => return .error error
  | .ok () => return (← (MonadState.get : LayerRun β τ (Invocation β))).outcome

/-- Executes a plan and gives the calls as well; linking makes none. -/
def recordExecute (engine : Engine β τ) (id : PlanId) (natural : Option (Symbol β))
    (receiver : Option InstanceId) (args : List Value) :
    Run β τ (Except ExecutionError Value × List (Call β)) := do
  match ← engine.link id natural with
  | .error error => return (.error error, [])
  | .ok core =>
    -- Compiling during the link may have changed the state of the plan, but not the plan.
    let plan := (← find fun world => world.plan? id).plan
    let invocation := Invocation.begin plan.target plan.annotations receiver args
    let (recorded, _) ← (engine.recordPhases plan core).run.run invocation
    return recorded

/-- Runs the natural symbol of a slot and gives the call of the core as well. -/
def recordNatural (engine : Engine β τ) (slot : Slot β) (joinpoint : Joinpoint)
    (receiver : Option InstanceId) (args : List Value) :
    Run β τ (Except ExecutionError Value × List (Call β)) := do
  match slot.natural with
  | none => return (.error (.weaving (.missingSymbol slot.target.label)), [])
  | some symbol =>
    match joinpoint.link symbol slot.target.label with
    | .error fault => return (.error (.weaving fault), [])
    | .ok core =>
      let context := (Invocation.begin slot.target [] receiver args).context
      let ended ← engine.runCore core context
      return (ended, [.core core context ended])

/-- Uses a slot and gives the calls as well. -/
def recordSlot (engine : Engine β τ) (slot : Slot β) (joinpoint : Joinpoint)
    (receiver : Option InstanceId) (args : List Value) :
    Run β τ (Except ExecutionError Value × List (Call β)) := do
  if (← getWorld).weaver.config.enabled then
    let id ← onWorld fun world => world.planFor slot.target joinpoint
    engine.recordExecute id slot.natural receiver args
  else engine.recordNatural slot joinpoint receiver args

section Erasure

variable (engine : Engine β τ)

/-- Recording the core is running it. -/
theorem erase_recordCore (core : Core β) (context : AdviceContext β) :
    (engine.recordCore core context).erase = StateT.lift (engine.runCore core context) := by
  simp [recordCore]

variable {reachable : Nat → Option (LayerRun β τ (Except ExecutionError Value))}
  {recorded : Nat → Option (Recorded β τ (Except ExecutionError Value))}

/-- Recording what proceeding runs is proceeding, if the layers within reach are the same. -/
theorem erase_recordProceed
    (reaches : ∀ layer, (recorded layer).map Noted.erase = reachable layer) :
    (recordProceed recorded).erase = proceed reachable := by
  simp only [recordProceed, proceed, Noted.erase_bind, Noted.erase_liftM]
  refine bind_congr fun invocation => ?_
  -- Both look the same slot up, and find runs that are the same without their notes.
  have same : (invocation.joinpoint.bind recorded).map Noted.erase =
      invocation.joinpoint.bind reachable := by
    cases invocation.joinpoint <;> simp [reaches]
  rw [← same]
  cases invocation.joinpoint.bind recorded <;> simp

/-- Serving an advice with notes is serving it. -/
theorem erase_serveRecorded
    (reaches : ∀ layer, (recorded layer).map Noted.erase = reachable layer)
    (request : AdviceRequest β τ) :
    (engine.serveRecorded recorded request).erase = engine.serveAdvice reachable request := by
  cases request with
  | plain request => simp [serveRecorded, serveAdvice]
  | proceed context =>
    -- The use of proceeding is replaced by its recording, whose calls go into the note.
    rw [serveAdvice, ← erase_recordProceed reaches]
    simp only [serveRecorded, Noted.erase_bind, Noted.erase_liftM, Noted.erase_tell, pure_bind,
      Noted.erase_pure]
    simp only [Noted.erase, bind_map_left]

/-- Recording the call of an advice is making it. -/
theorem erase_recordAdvice
    (reaches : ∀ layer, (recorded layer).map Noted.erase = reachable layer)
    (advice : Advice β) :
    (engine.recordAdvice advice recorded).erase = engine.callAdvice advice reachable := by
  unfold recordAdvice callAdvice
  simp only [Noted.erase_bind, Noted.erase_liftM]
  refine bind_congr fun seen => ?_
  -- The program of the advice is served with notes and without.
  rw [← Noted.erase_run (engine.erase_serveRecorded reaches)]
  simp [Noted.erase]

/-- Recording the call of an advice with no layer within reach is making it. -/
theorem erase_recordAdvice_nowhere (advice : Advice β) :
    (engine.recordAdvice advice recordedNowhere).erase = engine.callAdvice advice nowhere :=
  -- Neither with a record nor without is any layer within reach.
  engine.erase_recordAdvice (fun _ => rfl) advice

/-- Recording observers is running them. -/
theorem erase_recordObservers (label : String) (advices : List (Advice β)) :
    (engine.recordObservers label advices).erase = engine.runObservers label advices := by
  -- The induction is on the advices that are still to be called.
  induction advices with
  | nil => simp [recordObservers, runObservers]
  | cons advice rest ih =>
    rw [recordObservers, runObservers, Noted.erase_bind, erase_recordAdvice_nowhere]
    refine bind_congr fun returned => ?_
    -- Only an advice that returned nothing lets the next one be called.
    rcases returned with error | _ | value <;> simp [ih]

/-- Recording substitutes is running them. -/
theorem erase_recordSubstitutes (plan : Plan β) (advices : List (Advice β)) :
    (engine.recordSubstitutes plan advices).erase = engine.runSubstitutes plan advices := by
  -- The induction is on the advices that are still to be called.
  induction advices with
  | nil => simp [recordSubstitutes, runSubstitutes]
  | cons advice rest ih =>
    rw [recordSubstitutes, runSubstitutes, Noted.erase_bind, erase_recordAdvice_nowhere]
    refine bind_congr fun returned => ?_
    rcases returned with error | _ | value
    · simp
    · simp [ih]
    · -- A value that was returned must be taken first, which may fail.
      simp only [Noted.erase_bind, Noted.erase_liftM]
      refine bind_congr fun verdict => ?_
      cases verdict <;> simp [ih]

/-- Recording how an error is handled is handling it. -/
theorem erase_recordHandlers (plan : Plan β) (error : ExecutionError) :
    (engine.recordHandlers plan error).erase = engine.handleError plan error := by
  -- Handlers are substitutes between two changes of the invocation.
  simp [recordHandlers, handleError, erase_recordSubstitutes]

/-- Recording the innermost layer is running it. -/
theorem erase_recordInnermost (plan : Plan β) (core : Core β) :
    (engine.recordInnermost plan core).erase = engine.runInnermost plan core := by
  rw [recordInnermost, runInnermost, Noted.erase_bind, erase_recordObservers]
  refine bind_congr fun before => ?_
  -- After a before advice that fails nothing else is called.
  cases before with
  | error error => simp
  | ok =>
    simp only [Noted.erase_bind, Noted.erase_liftM, erase_recordCore]
    refine bind_congr fun invocation => bind_congr fun ended => ?_
    cases ended with
    | ok value => simp [erase_recordSubstitutes]
    | error error =>
      dsimp only
      -- An error either ends the layer or is handed to the after-throw advices.
      split
      · simp
      · exact engine.erase_recordHandlers plan error

/-- If one layer is within reach, and its recording is the run of it, then so it is for all. -/
theorem map_erase_reachable {recording : Recorded β τ (Except ExecutionError Value)}
    {run : LayerRun β τ (Except ExecutionError Value)} (same : recording.erase = run)
    (next layer : Nat) :
    ((if layer = next then some recording else none).map Noted.erase) =
      if layer = next then some run else none := by
  -- There is one layer within reach, with a record and without.
  split <;> simp [same]

/-- Recording a layer is running it. -/
theorem erase_recordLayer (plan : Plan β) (core : Core β) (level : Nat)
    (around : List (Advice β)) :
    (engine.recordLayer plan core level around).erase =
      engine.runLayer plan core level around := by
  -- The induction is on the around advices, from the outside to the inside.
  induction around generalizing level with
  | nil => simp [recordLayer, runLayer, erase_recordInnermost]
  | cons advice inner ih =>
    -- The layer within reach is the recording of the one that is within reach of the run.
    have reaches := map_erase_reachable (ih (level + 1)) (level + 1)
    rw [recordLayer, runLayer]
    simp only [Noted.erase_bind, Noted.erase_liftM, engine.erase_recordAdvice reaches]
    refine bind_congr fun outer => bind_congr fun _ => bind_congr fun returned =>
      bind_congr fun _ => ?_
    -- What the advice returned is treated alike, with or without notes.
    rcases returned with error | _ | value
    · simp
    · simp
    · simp only [Noted.erase_bind, Noted.erase_liftM]
      refine bind_congr fun verdict => ?_
      cases verdict <;> simp

/-- Recording an invocation is running it. -/
theorem erase_recordPhases (plan : Plan β) (core : Core β) :
    (engine.recordPhases plan core).erase = engine.runPhases plan core := by
  rw [recordPhases, runPhases, Noted.erase_bind, erase_recordLayer, runLayers]
  refine bind_congr fun result => ?_
  -- Without after advices the result of the layers is final.
  split
  · simp
  · simp only [Noted.erase_bind, Noted.erase_liftM, erase_recordObservers]
    refine bind_congr fun _ => bind_congr fun verdict => ?_
    cases verdict <;> simp

/-- Recording an execution is executing. -/
theorem erase_recordExecute (id : PlanId) (natural : Option (Symbol β))
    (receiver : Option InstanceId) (args : List Value) :
    Prod.fst <$> engine.recordExecute id natural receiver args =
      engine.execute id natural receiver args := by
  simp only [recordExecute, execute, map_bind]
  refine bind_congr fun linked => ?_
  -- A plan that does not link makes no calls at all.
  cases linked with
  | error error => simp
  | ok core =>
    simp only [map_bind]
    refine bind_congr fun state => ?_
    rw [← erase_recordPhases]
    simp [Noted.erase]

/-- Recording the run of a natural symbol is running it. -/
theorem erase_recordNatural (slot : Slot β) (joinpoint : Joinpoint)
    (receiver : Option InstanceId) (args : List Value) :
    Prod.fst <$> engine.recordNatural slot joinpoint receiver args =
      engine.executeNatural slot joinpoint receiver args := by
  unfold recordNatural executeNatural
  -- Without a symbol, or with one that does not link, nothing is called.
  cases slot.natural with
  | none => simp
  | some symbol =>
    dsimp only
    cases joinpoint.link symbol slot.target.label <;> simp

/-- Recording the use of a slot is using it. -/
theorem erase_recordSlot (slot : Slot β) (joinpoint : Joinpoint) (receiver : Option InstanceId)
    (args : List Value) :
    Prod.fst <$> engine.recordSlot slot joinpoint receiver args =
      engine.executeSlot slot joinpoint receiver args := by
  -- Both ways of using a slot have their lemmas.
  simp only [recordSlot, executeSlot, map_bind]
  refine bind_congr fun world => ?_
  split
  · simp only [map_bind, erase_recordExecute]
  · exact engine.erase_recordNatural slot joinpoint receiver args

end Erasure

end Engine

end AspectWeaving
