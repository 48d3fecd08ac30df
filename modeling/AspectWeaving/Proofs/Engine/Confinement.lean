import AspectWeaving.Proofs.Engine.Notes

/-! What runs leave of an invocation: whatever advices do, its target, its error and its joinpoint
slot are after each layer what they were before it. -/

namespace AspectWeaving

variable {β τ : Type}

/-- An invocation with another context, and otherwise the same. -/
def Invocation.Kept (before after : Invocation β) : Prop :=
  after = { before with context := after.context }

/-- What is kept twice is kept. -/
theorem Invocation.Kept.trans {before between after : Invocation β} (early : before.Kept between)
    (late : between.Kept after) : before.Kept after := by
  -- Both steps leave the same parts.
  unfold Kept at early late ⊢
  rw [late, early]

/-- What is kept has the error that it had. -/
theorem Invocation.Kept.error_eq {before after : Invocation β} (kept : before.Kept after) :
    after.error = before.error := by
  -- The error is one of the parts that are left.
  rw [kept]

namespace Noted

variable {ν α γ : Type} {when : Option ExecutionError → Prop}

/-- A run that changes no more of an invocation than its context, if its error is such at first. -/
def Confined (noted : Noted ν β τ α) (when : Option ExecutionError → Prop) : Prop :=
  ∀ ⦃before result notes after⦄, noted.Gives before result notes after → when before.1.error →
    before.1.Kept after.1

/-- A run that is confined whatever the error is changes no more than the context. -/
theorem Confined.kept {noted : Noted ν β τ α} {before after : Invocation β × State β τ}
    {result : α} {notes : List ν} (confined : noted.Confined fun _ => True)
    (gives : noted.Gives before result notes after) : before.1.Kept after.1 :=
  -- Nothing is asked of the error.
  confined gives trivial

/-- A result alone changes nothing. -/
theorem confined_pure (result : α) : (pure result : Noted ν β τ α).Confined when := by
  -- Nothing is done.
  intro before given notes after gives _
  obtain ⟨_, _, rfl⟩ := gives_pure.mp gives
  rfl

/-- A run without notes is confined if it changes no more than the context. -/
theorem confined_liftM {plain : LayerRun β τ α}
    (kept : ∀ ⦃invocation state result left finish⦄,
      (plain.run invocation).run state = some ((result, left), finish) → invocation.Kept left) :
    (liftM plain : Noted ν β τ α).Confined when :=
  -- What is lifted has no notes, and does to the invocation what it did.
  fun _ _ _ _ gives _ => kept (gives_liftM.mp gives).2

/-- Two runs one after the other are confined if both are. -/
theorem Confined.bind {first : Noted ν β τ α} {second : α → Noted ν β τ γ}
    (early : first.Confined when) (late : ∀ result, (second result).Confined when) :
    (first >>= second).Confined when := by
  intro before result notes after gives right
  obtain ⟨given, _, between, _, starts, goes, _⟩ := gives_bind.mp gives
  have kept := early starts right
  -- The error is still what it was when the second run starts.
  exact kept.trans (late given goes (kept.error_eq ▸ right))

/-- Looking at the invocation changes nothing. -/
theorem confined_get :
    (liftM (MonadState.get : LayerRun β τ (Invocation β)) : Noted ν β τ _).Confined when :=
  confined_liftM fun _ _ _ _ _ ran => by cases ran; rfl

/-- Changing the context changes no more. -/
theorem confined_modifyContext (change : AdviceContext β → AdviceContext β) :
    (liftM (Engine.modifyContext change : LayerRun β τ Unit) : Noted ν β τ _).Confined when :=
  confined_liftM fun _ _ _ _ _ ran => by cases ran; rfl

/-- Taking a note changes nothing. -/
theorem confined_tell (told : List ν) : (tell told : Noted ν β τ PUnit).Confined when := by
  -- A note does not touch the invocation.
  intro before given notes after gives _
  obtain ⟨_, rfl⟩ := gives_tell.mp gives
  rfl

/-- A run outside the invocation leaves it alone. -/
theorem confined_lift (run : Run β τ α) :
    (liftM (StateT.lift run : LayerRun β τ α) : Noted ν β τ α).Confined when :=
  -- A run of the engine does not touch the invocation.
  confined_liftM fun invocation state result left finish ran => by
    obtain ⟨_, _, same⟩ := Option.bind_eq_some_iff.mp ran
    cases same
    rfl

/-- The notes of a confined run can be made part of its result. -/
theorem Confined.lift {μ : Type} {noted : Noted ν β τ α} (confined : noted.Confined when) :
    (liftM noted.run : Noted μ β τ (α × List ν)).Confined when :=
  -- The notes within are handed on as a result.
  fun _ _ _ _ gives right => confined (gives_liftM.mp gives).2 right

end Noted

namespace Engine

open Noted

variable {engine : Engine β τ} {before after : Invocation β × State β τ}
  {when : Option ExecutionError → Prop}
  {reachable : Nat → Option (Recorded β τ (Except ExecutionError Value))}

/-- Proceeding leaves the joinpoint slot as it was, and changes no more than the layer that is run.
-/
theorem confined_recordProceed
    (inside : ∀ layer run, reachable layer = some run → run.Confined when) :
    (recordProceed reachable).Confined when := by
  intro before result calls after gives right
  rw [recordProceed, gives_get_bind] at gives
  -- The slot names a layer that is within reach, or none.
  cases reached : before.1.joinpoint.bind reachable with
  | none =>
    simp only [reached, gives_pure] at gives
    obtain ⟨_, _, rfl⟩ := gives
    rfl
  | some layer =>
    simp only [reached] at gives
    obtain ⟨_, _, between, _, inner, ends, _⟩ := gives_bind.mp gives
    rw [setJoinpoint, gives_modify_bind] at ends
    obtain ⟨_, _, rfl⟩ := gives_pure.mp ends
    obtain ⟨slot, _, held⟩ := Option.bind_eq_some_iff.mp reached
    -- The layer keeps the slot as well, so that putting it back changes nothing.
    have kept := inside slot layer held inner right
    unfold Invocation.Kept at kept ⊢
    dsimp only
    rw [kept]

/-- Answering a request of an advice changes no more than the context. -/
theorem confined_serveRecorded
    (inside : ∀ layer run, reachable layer = some run → run.Confined when)
    (request : AdviceRequest β τ) : (engine.serveRecorded reachable request).Confined when := by
  cases request with
  | plain request => exact confined_lift _
  | proceed context =>
    -- The context that the advice hands over is put in before the layer runs.
    refine (confined_modifyContext _).bind fun _ => ?_
    refine (confined_recordProceed inside).lift.bind fun _ => ?_
    exact (confined_tell _).bind fun _ => confined_get.bind fun _ => confined_pure _

/-- A program of an advice changes no more than the context. -/
theorem confined_run {α : Type}
    (inside : ∀ layer run, reachable layer = some run → run.Confined when)
    (program : AdviceAction β τ α) :
    Noted.Confined (program.run (engine.serveRecorded reachable)) when := by
  -- The induction is on the program.
  induction program with
  | done result => exact confined_pure result
  | ask asked next ih => exact (confined_serveRecorded inside asked).bind ih

/-- Calling an advice changes no more than the context. -/
theorem confined_recordAdvice
    (inside : ∀ layer run, reachable layer = some run → run.Confined when) (advice : Advice β) :
    (engine.recordAdvice advice reachable).Confined when := by
  refine confined_get.bind fun seen => ?_
  -- What the advice asks for is confined, and it leaves no more than a context of its own.
  refine (confined_run inside _).lift.bind fun _ => ?_
  exact (confined_modifyContext _).bind fun _ => (confined_tell _).bind fun _ => confined_pure _

/-- Without a layer within reach an advice changes no more than the context. -/
theorem confined_recordAdvice_nowhere (advice : Advice β) :
    (engine.recordAdvice advice recordedNowhere).Confined when :=
  -- There is no layer within reach that could be run.
  confined_recordAdvice (fun _ _ absent => by cases absent) advice

/-- Observers change no more than the context. -/
theorem confined_recordObservers (label : String) (advices : List (Advice β)) :
    (engine.recordObservers label advices).Confined when := by
  -- The induction is on the advices that are still to be called.
  induction advices with
  | nil => exact confined_pure _
  | cons advice rest ih =>
    refine (confined_recordAdvice_nowhere advice).bind fun returned => ?_
    rcases returned with error | _ | value
    · exact confined_pure _
    · exact ih
    · exact confined_pure _

/-- A value in place of another changes no more than the context. -/
theorem kept_of_substitute {plan : Plan β} {advice : Advice β} {value : Value}
    {invocation left : Invocation β} {state finish : State β τ}
    {verdict : Except ExecutionError Unit}
    (ran : ((substitute plan advice value).run invocation).run state =
      some ((verdict, left), finish)) : invocation.Kept left := by
  -- Only a value that the joinpoint takes changes the invocation, and only its context.
  cases judged : plan.joinpoint.checkValue advice.phase advice.key plan.target.label value <;>
  · simp only [substitute, judged] at ran
    cases ran
    rfl

/-- A value in place of another is taken without touching anything but the context. -/
theorem confined_substitute (plan : Plan β) (advice : Advice β) (value : Value) :
    (liftM (substitute plan advice value : LayerRun β τ _) : Recorded β τ _).Confined when :=
  -- At most the value changes.
  confined_liftM fun _ _ _ _ _ ran => kept_of_substitute ran

/-- Looking at the value changes nothing. -/
theorem confined_getValue :
    (liftM (getValue : LayerRun β τ Value) : Recorded β τ _).Confined when :=
  confined_liftM fun _ _ _ _ _ ran => by cases ran; rfl

/-- Substitutes change no more than the context. -/
theorem confined_recordSubstitutes (plan : Plan β) (advices : List (Advice β)) :
    (engine.recordSubstitutes plan advices).Confined when := by
  -- The induction is on the advices that are still to be called.
  induction advices with
  | nil => exact confined_getValue.bind fun _ => confined_pure _
  | cons advice rest ih =>
    refine (confined_recordAdvice_nowhere advice).bind fun returned => ?_
    rcases returned with error | _ | value
    · exact confined_pure _
    · exact ih
    · refine (confined_substitute plan advice value).bind fun verdict => ?_
      cases verdict with
      | error error => exact confined_pure _
      | ok => exact ih

/-- Handling an error where there was none leaves none behind. -/
theorem confined_recordHandlers (plan : Plan β) (error : ExecutionError) :
    (engine.recordHandlers plan error).Confined (· = none) := by
  intro before result calls after gives quiet
  rw [recordHandlers, gives_modify_bind, setValue, modifyContext, gives_modify_bind,
    gives_bind] at gives
  obtain ⟨_, _, between, _, handles, cleared, _⟩ := gives
  rw [gives_modify_bind, gives_pure] at cleared
  obtain ⟨_, _, rfl⟩ := cleared
  -- The handlers keep the error that they are told of, and then it is taken out again.
  have kept := (confined_recordSubstitutes plan _).kept handles
  unfold Invocation.Kept at kept ⊢
  dsimp only
  rw [kept, ← quiet]

/-- The innermost layer changes no more than the context, and leaves no error behind. -/
theorem confined_recordInnermost (plan : Plan β) (core : Core β) :
    (engine.recordInnermost plan core).Confined (· = none) := by
  refine (confined_recordObservers _ _).bind fun verdict => ?_
  cases verdict with
  | error error => exact confined_pure _
  | ok =>
    refine confined_get.bind fun seen => ?_
    -- The core is given the context and nothing else of the invocation.
    have called : (engine.recordCore core seen.context).Confined (· = none) :=
      (confined_lift _).bind fun _ => (confined_tell _).bind fun _ => confined_pure _
    refine called.bind fun ended => ?_
    cases ended with
    | ok value =>
      exact (confined_modifyContext _).bind fun _ => confined_recordSubstitutes plan _
    | error error =>
      dsimp only
      split
      · exact confined_pure _
      · exact confined_recordHandlers plan error

/-- A layer that runs between two changes of the joinpoint slot leaves the slot as it was. -/
theorem Confined.within {α γ : Type} {slot : Option Nat} {inner : Recorded β τ α}
    {last : α → Recorded β τ γ} (confined : inner.Confined when)
    (ends : ∀ result, (last result).Confined when) :
    ((liftM (MonadState.get : LayerRun β τ (Invocation β)) : Recorded β τ _) >>= fun seen =>
      (liftM (setJoinpoint slot : LayerRun β τ Unit) : Recorded β τ _) >>= fun _ =>
        inner >>= fun result =>
          (liftM (setJoinpoint seen.joinpoint : LayerRun β τ Unit) : Recorded β τ _) >>= fun _ =>
            last result).Confined when := by
  intro before given calls after gives right
  rw [gives_get_bind, setJoinpoint, gives_modify_bind, gives_bind] at gives
  obtain ⟨result, _, between, _, runs, goes, _⟩ := gives
  rw [setJoinpoint, gives_modify_bind] at goes
  have kept := confined runs right
  -- The slot that the layer is left with is overwritten, whatever it holds.
  have put : before.1.Kept { between.1 with joinpoint := before.1.joinpoint } := by
    unfold Invocation.Kept at kept ⊢
    rw [kept]
  exact put.trans (ends result goes (put.error_eq ▸ right))

/-- If one layer is within reach and is confined, whatever can be reached is. -/
theorem confined_reachable {recording : Recorded β τ (Except ExecutionError Value)}
    {when : Option ExecutionError → Prop} (confined : recording.Confined when) (next layer : Nat)
    (run : Recorded β τ (Except ExecutionError Value))
    (reached : (if layer = next then some recording else none) = some run) :
    run.Confined when := by
  -- The one layer within reach is the recording.
  split at reached <;> cases reached
  exact confined

/-- A layer changes no more of an invocation than its context, and leaves no error behind. -/
theorem confined_recordLayer (plan : Plan β) (core : Core β) (level : Nat)
    (around : List (Advice β)) :
    (engine.recordLayer plan core level around).Confined (· = none) := by
  -- The induction is on the around advices, from the outside to the inside.
  induction around generalizing level with
  | nil =>
    exact Confined.within (confined_recordInnermost plan core) fun _ => confined_pure _
  | cons advice inner ih =>
    -- The advice can reach the next layer only, which is confined by induction.
    have inside := confined_reachable (ih (level + 1)) (level + 1)
    refine Confined.within (confined_recordAdvice inside advice) fun returned => ?_
    rcases returned with error | _ | value
    · exact confined_pure _
    · exact confined_getValue.bind fun _ => confined_pure _
    · refine (confined_substitute plan advice value).bind fun verdict => ?_
      cases verdict with
      | error error => exact confined_pure _
      | ok => exact confined_getValue.bind fun _ => confined_pure _

/-- Without a layer within reach an advice changes no more of an invocation than its context. -/
theorem kept_of_recordAdvice {advice : Advice β} {returned : Except ExecutionError (Option Value)}
    {calls : List (Call β)}
    (gives : (engine.recordAdvice advice recordedNowhere).Gives before returned calls after) :
    before.1.Kept after.1 :=
  -- An advice that cannot proceed is confined whatever the error.
  (confined_recordAdvice_nowhere advice).kept gives

/-- Observers change no more of an invocation than its context. -/
theorem kept_of_recordObservers {label : String} {advices : List (Advice β)}
    {ended : Except ExecutionError Unit} {calls : List (Call β)}
    (gives : (engine.recordObservers label advices).Gives before ended calls after) :
    before.1.Kept after.1 :=
  -- Observers cannot proceed.
  (confined_recordObservers label advices).kept gives

end Engine

end AspectWeaving
