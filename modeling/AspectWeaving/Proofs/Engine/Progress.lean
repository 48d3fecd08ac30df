import AspectWeaving.Proofs.Engine.Layering

/-! Recorded runs forwards: what each step gives, when a run is stuck, and when one run ends as
another one does. -/

namespace AspectWeaving

variable {β τ α γ ν μ ρ : Type}

namespace Noted

variable {before after between : Invocation β × State β τ} {notes : List ν}

/-- A run without a result. -/
def Stuck (noted : Noted ν β τ α) (before : Invocation β × State β τ) : Prop :=
  (noted.run.run before.1).run before.2 = none

/-- A run without notes may be stuck. -/
theorem stuck_liftM {plain : LayerRun β τ α} (stuck : (plain.run before.1).run before.2 = none) :
    (liftM plain : Noted ν β τ α).Stuck before := by
  -- What is lifted is run as it is.
  unfold Stuck
  show (((fun result => (result, ([] : List ν))) <$> plain).run before.1).run before.2 = none
  rw [StateT.run_map, StateT.run_map, stuck]
  rfl

/-- Of two runs one after the other the first may be stuck. -/
theorem Stuck.bind {first : Noted ν β τ α} (stuck : first.Stuck before)
    (second : α → Noted ν β τ γ) : (first >>= second).Stuck before := by
  -- The second run is not reached.
  unfold Stuck at stuck ⊢
  show ((first.run >>= fun (result, early) => (fun (last, late) => (last, early ++ late)) <$>
    (second result).run).run before.1).run before.2 = none
  rw [StateT.run_bind, StateT.run_bind, stuck]
  rfl

/-- Of two runs one after the other the second may be stuck. -/
theorem Gives.stuck_bind {first : Noted ν β τ α} {second : α → Noted ν β τ γ} {result : α}
    (gives : first.Gives before result notes between) (stuck : (second result).Stuck between) :
    (first >>= second).Stuck before := by
  unfold Gives at gives
  unfold Stuck at stuck ⊢
  show ((first.run >>= fun (result, early) => (fun (last, late) => (last, early ++ late)) <$>
    (second result).run).run before.1).run before.2 = none
  rw [StateT.run_bind, StateT.run_bind, gives, Option.bind_eq_bind, Option.bind_some]
  -- Joining the notes does not help a run that is stuck.
  rw [StateT.run_map, StateT.run_map, stuck]
  rfl

/-- A run that ends as an original does, which is run in a state related to the present one: both
have no result, or both have one, and the ends belong together. -/
def Follows (noted : Noted ν β τ α) (R : State β τ → State β τ → Prop) (original : Run β τ ρ)
    (ends : ρ → State β τ → α → List ν → Invocation β × State β τ → Prop)
    (before : Invocation β × State β τ) : Prop :=
  ∃ state, R before.2 state ∧
    match original.run state with
    | none => noted.Stuck before
    | some (ended, finish) => ∃ given notes after,
        noted.Gives before given notes after ∧ ends ended finish given notes after

variable {R : State β τ → State β τ → Prop} {original : Run β τ ρ}
  {ends : ρ → State β τ → α → List ν → Invocation β × State β τ → Prop}
  {ends' : ρ → State β τ → γ → List ν → Invocation β × State β τ → Prop}

/-- A run follows an original as well if it is stuck and gives results where another one does that
follows it. -/
theorem Follows.imp {noted : Noted ν β τ α} {other : Noted μ β τ γ}
    {start : Invocation β × State β τ}
    {ends' : ρ → State β τ → γ → List μ → Invocation β × State β τ → Prop}
    (follows : noted.Follows R original ends before)
    (related : ∀ {state}, R before.2 state → R start.2 state)
    (stuck : noted.Stuck before → other.Stuck start)
    (gives : ∀ {state ended finish given notes after}, R before.2 state →
      original.run state = some (ended, finish) → noted.Gives before given notes after →
        ends ended finish given notes after → ∃ given' notes' after',
          other.Gives start given' notes' after' ∧ ends' ended finish given' notes' after') :
    other.Follows R original ends' start := by
  obtain ⟨state, unseen, outcome⟩ := follows
  refine ⟨state, related unseen, ?_⟩
  -- The original has a result, or has none.
  cases ran : original.run state with
  | none =>
    rw [ran] at outcome
    exact stuck outcome
  | some result =>
    rw [ran] at outcome
    obtain ⟨given, notes, after, ended, belongs⟩ := outcome
    exact gives unseen ran ended belongs

/-- What comes after a run that follows an original does not change that it does. -/
theorem Follows.bind {first : Noted ν β τ α} {second : α → Noted ν β τ γ}
    (follows : first.Follows R original ends before)
    (goes : ∀ {state ended finish given early between}, R before.2 state →
      original.run state = some (ended, finish) → ends ended finish given early between →
        ∃ last late after, (second given).Gives between last late after ∧
          ends' ended finish last (early ++ late) after) :
    (first >>= second).Follows R original ends' before := by
  -- The original is followed by the first run, and the second one goes on from where this ends.
  refine follows.imp id (fun stuck => stuck.bind second) fun unseen ran gives ended => ?_
  obtain ⟨last, late, after, gives', ended'⟩ := goes unseen ran ended
  exact ⟨last, _, after, gives_bind.mpr ⟨_, _, _, late, gives, gives', rfl⟩, ended'⟩

/-- What comes before a run that follows an original does not change that it does. -/
theorem Gives.follows_bind {first : Noted ν β τ α} {second : α → Noted ν β τ γ} {result : α}
    (first_gives : first.Gives before result notes between)
    (related : ∀ {state}, R between.2 state → R before.2 state)
    (follows : (second result).Follows R original
      (fun ended finish given late after => ends' ended finish given (notes ++ late) after)
      between) :
    (first >>= second).Follows R original ends' before := by
  -- The first run adds its notes, and the original is followed by the second one.
  refine follows.imp related first_gives.stuck_bind fun _ _ gives ended => ?_
  exact ⟨_, _, _, gives_bind.mpr ⟨_, notes, between, _, first_gives, gives, rfl⟩, ended⟩

/-- Looking at the invocation comes before a run that follows an original. -/
theorem Follows.get_bind {second : Invocation β → Noted ν β τ α}
    (follows : (second before.1).Follows R original ends before) :
    ((liftM (MonadState.get : LayerRun β τ (Invocation β)) : Noted ν β τ _) >>= second).Follows R
      original ends before := by
  -- A look at the invocation gives no notes.
  have looked : (liftM (MonadState.get : LayerRun β τ (Invocation β)) : Noted ν β τ _).Gives
      before before.1 [] before := gives_liftM.mpr ⟨rfl, rfl⟩
  exact looked.follows_bind id follows

/-- A change of the invocation comes before a run that follows an original. -/
theorem Follows.modify_bind {change : Invocation β → Invocation β} {second : Noted ν β τ α}
    (follows : second.Follows R original ends (change before.1, before.2)) :
    ((liftM (modify change : LayerRun β τ PUnit) : Noted ν β τ _) >>= fun _ => second).Follows R
      original ends before := by
  -- A change of the invocation gives no notes.
  have changed : (liftM (modify change : LayerRun β τ PUnit) : Noted ν β τ _).Gives before
      PUnit.unit [] (change before.1, before.2) := gives_liftM.mpr ⟨rfl, rfl⟩
  exact changed.follows_bind id follows

/-- The notes of a run that follows an original can be made part of its result. -/
theorem Follows.lift {noted : Noted ν β τ α} (follows : noted.Follows R original ends before) :
    (liftM noted.run : Noted μ β τ (α × List ν)).Follows R original
      (fun ended finish given notes after => notes = [] ∧ ends ended finish given.1 given.2 after)
      before :=
  -- The notes within are handed on as a result.
  follows.imp id stuck_liftM fun _ _ gives ended =>
    ⟨_, [], _, gives_liftM.mpr ⟨rfl, gives⟩, rfl, ended⟩

/-- A run that follows an original ends as whatever the original ends as. -/
theorem Follows.rel {noted : Noted ν β τ α} (follows : noted.Follows R original ends before)
    {Same : γ → ρ × State β τ → Prop} {other : Option γ}
    (alike : ∀ state, R before.2 state → Option.Rel Same other (original.run state)) :
    Option.Rel (fun plain given => ∃ ended finish, Same plain (ended, finish) ∧
        ends ended finish given.1.1.1 given.1.1.2 (given.1.2, given.2))
      other ((noted.run.run before.1).run before.2) := by
  -- Where the original is stuck so is the run; where it ends the run ends too, as told.
  obtain ⟨state, unseen, outcome⟩ := follows
  have same := alike state unseen
  cases ran : original.run state with
  | none =>
    rw [ran] at outcome same
    have stuck : (noted.run.run before.1).run before.2 = none := outcome
    rw [stuck]
    cases same with
    | none => exact .none
  | some result =>
    rw [ran] at outcome same
    obtain ⟨given, notes, after, gives, belongs⟩ := outcome
    have gave : (noted.run.run before.1).run before.2 =
      some (((given, notes), after.1), after.2) := gives
    rw [gave]
    cases same with
    | some same => exact .some ⟨_, _, same, belongs⟩

end Noted

namespace Engine

variable {engine : Engine β τ} {before after : Invocation β × State β τ}
  {R : State β τ → State β τ → Prop}
  {reachable : Nat → Option (Recorded β τ (Except ExecutionError Value))}

/-- A request of a body that is answered leaves the invocation alone. -/
theorem gives_serveRecorded {request : Request β τ} {answer : request.Answer} {state : State β τ}
    (served : (engine.serve request).run before.2 = some (answer, state)) :
    (engine.serveRecorded reachable (.plain request)).Gives before answer []
      (before.1, state) := by
  -- A request that is not for proceeding is served as it is without a record.
  refine Noted.gives_liftM.mpr ⟨rfl, ?_⟩
  rw [StateT.run_lift, StateT.run_bind, served]
  rfl

/-- The core follows itself, and is noted. -/
theorem follows_recordCore {core : Core β} {context : AdviceContext β}
    (fair : R before.2 before.2) :
    (engine.recordCore core context).Follows R (engine.runCore core context)
      (fun ended finish given calls after =>
        given = ended ∧ calls = [.core core context ended] ∧ after = (before.1, finish))
      before := by
  -- The core is the original itself, with a note of its run.
  refine ⟨before.2, fair, ?_⟩
  cases ran : (engine.runCore core context).run before.2 with
  | none =>
    refine Noted.Stuck.bind (Noted.stuck_liftM ?_) _
    rw [StateT.run_lift, StateT.run_bind, ran]
    rfl
  | some result =>
    refine ⟨result.1, _, (before.1, result.2), ?_, rfl, rfl, rfl⟩
    refine Noted.gives_liftM_bind.mpr ⟨result.1, (before.1, result.2), ?_, ?_⟩
    · rw [StateT.run_lift, StateT.run_bind, ran]
      rfl
    · exact Noted.gives_tell_bind.mpr ⟨[], Noted.gives_pure.mpr ⟨rfl, rfl, rfl⟩, rfl⟩

variable {ρ : Type} {original : Run β τ ρ}

/-- Proceeding to a layer that follows an original follows it, and puts the slot back. -/
theorem follows_recordProceed (before : Invocation β × State β τ)
    {layer : Recorded β τ (Except ExecutionError Value)}
    {ends : ρ → State β τ → Except ExecutionError Value → List (Call β) →
      Invocation β × State β τ → Prop}
    (within : before.1.joinpoint.bind reachable = some layer)
    (follows : layer.Follows R original ends before) :
    (recordProceed reachable).Follows R original (fun ended finish given calls after =>
      ∃ inside, ends ended finish given calls inside ∧
        after = ({ inside.1 with joinpoint := before.1.joinpoint }, inside.2)) before := by
  -- The layer is within reach; only the joinpoint is put back behind it.
  refine Noted.Follows.get_bind ?_
  simp only [within]
  refine follows.bind fun {state ended finish given early inside} _ _ belongs => ?_
  refine ⟨given, [], ({ inside.1 with joinpoint := before.1.joinpoint }, inside.2), ?_, inside,
    by simpa using belongs, rfl⟩
  exact Noted.gives_modify_bind.mpr (Noted.gives_pure.mpr ⟨rfl, rfl, rfl⟩)

/-- A request to proceed to a layer that follows an original follows it, and is noted. -/
theorem follows_serveRecorded {layer : Recorded β τ (Except ExecutionError Value)}
    {context : AdviceContext β}
    {ends : ρ → State β τ → Except ExecutionError Value → List (Call β) →
      Invocation β × State β τ → Prop}
    (within : before.1.joinpoint.bind reachable = some layer)
    (follows : layer.Follows R original ends ({ before.1 with context }, before.2)) :
    (engine.serveRecorded reachable (.proceed context)).Follows R original
      (fun ended finish given proceeds after => ∃ result calls inside,
        ends ended finish result calls inside ∧ given = (result, after.1) ∧
          proceeds = [(calls, result)] ∧
          after = ({ inside.1 with joinpoint := before.1.joinpoint }, inside.2)) before := by
  refine Noted.Follows.modify_bind ?_
  have proceeds := follows_recordProceed ({ before.1 with context }, before.2) within follows
  refine proceeds.lift.bind fun {state ended finish given early between} _ _ belongs => ?_
  obtain ⟨rfl, inside, belongs, rfl⟩ := belongs
  -- What the layer has called is one note.
  refine ⟨_, [(given.2, given.1)], _, ?_, given.1, given.2, inside, belongs, rfl, rfl, rfl⟩
  refine Noted.gives_tell_bind.mpr ⟨[], ?_, rfl⟩
  exact Noted.gives_get_bind.mpr (Noted.gives_pure.mpr ⟨rfl, rfl, rfl⟩)

/-- Calling an advice whose program follows an original follows it, and is noted. -/
theorem follows_recordAdvice (before : Invocation β × State β τ) {advice : Advice β}
    {ends : ρ → State β τ → Except ExecutionError (Option Value) × AdviceContext β →
      List (Proceeding β) → Invocation β × State β τ → Prop}
    (follows : Noted.Follows ((engine.host.advice advice.body before.1).run
      (engine.serveRecorded reachable)) R original ends before) :
    (engine.recordAdvice advice reachable).Follows R original
      (fun ended finish returned calls after => ∃ left proceeds inside,
        ends ended finish (returned, left) proceeds inside ∧
          calls = [.advice advice before.1 proceeds returned] ∧
          after = ({ inside.1 with context := left }, inside.2)) before := by
  -- Behind the body the context is put back and the call is noted.
  refine Noted.Follows.get_bind ?_
  refine follows.lift.bind fun {state ended finish given early between} _ _ belongs => ?_
  obtain ⟨rfl, belongs⟩ := belongs
  obtain ⟨⟨returned, left⟩, proceeds⟩ := given
  refine ⟨returned, [.advice advice before.1 proceeds returned], _, ?_, left, proceeds, between,
    belongs, rfl, rfl⟩
  refine Noted.gives_modify_bind.mpr (Noted.gives_tell_bind.mpr ⟨[], ?_, rfl⟩)
  exact Noted.gives_pure.mpr ⟨rfl, rfl, rfl⟩

end Engine

end AspectWeaving
