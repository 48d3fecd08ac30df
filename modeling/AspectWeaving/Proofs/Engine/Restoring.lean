import AspectWeaving.Proofs.Engine.Fatality

/-! The joinpoint slot: every layer and every use of proceeding leaves it as it was found, so that
an around advice always proceeds to the layer directly inside it, and other advices nowhere. -/

namespace AspectWeaving

variable {β τ : Type}

namespace Noted

variable {ν α γ : Type} {slot : Option Nat} {good : ν → Prop}

/-- A run that, where it starts with given contents of the joinpoint slot, leaves them there and
takes good notes only. -/
def Holds (noted : Noted ν β τ α) (slot : Option Nat) (good : ν → Prop) : Prop :=
  ∀ ⦃before result notes after⦄, noted.Gives before result notes after →
    before.1.joinpoint = slot → after.1.joinpoint = slot ∧ ∀ note ∈ notes, good note

/-- A result alone leaves the slot and takes no notes. -/
theorem holds_pure (result : α) : (pure result : Noted ν β τ α).Holds slot good := by
  -- Nothing is done and nothing is noted.
  intro before given notes after gives holds
  obtain ⟨_, rfl, rfl⟩ := gives_pure.mp gives
  exact ⟨holds, by simp⟩

/-- A run without notes need only leave the slot. -/
theorem holds_liftM {plain : LayerRun β τ α}
    (leaves : ∀ ⦃invocation state result left finish⦄,
      (plain.run invocation).run state = some ((result, left), finish) →
        left.joinpoint = invocation.joinpoint) :
    (liftM plain : Noted ν β τ α).Holds slot good := by
  -- Nothing is noted.
  intro before given notes after gives holds
  obtain ⟨rfl, ran⟩ := gives_liftM.mp gives
  exact ⟨(leaves ran).trans holds, by simp⟩

/-- A run that changes no more than the context leaves the slot. -/
theorem holds_of_confined {plain : LayerRun β τ α}
    (confined : (liftM plain : Noted ν β τ α).Confined fun _ => True) :
    (liftM plain : Noted ν β τ α).Holds slot good :=
  -- What is confined leaves the joinpoint too.
  holds_liftM fun invocation state result left finish ran => by
    have gives : (liftM plain : Noted ν β τ α).Gives (invocation, state) result [] (left, finish) :=
      gives_liftM.mpr ⟨rfl, ran⟩
    have kept : invocation.Kept left := confined.kept gives
    rw [kept]

/-- Two runs one after the other leave the slot and take good notes if both do. -/
theorem Holds.bind {first : Noted ν β τ α} {second : α → Noted ν β τ γ}
    (early : first.Holds slot good) (late : ∀ result, (second result).Holds slot good) :
    (first >>= second).Holds slot good := by
  -- Each note is one of the first run or one of the second.
  intro before given notes after gives holds
  obtain ⟨result, _, between, _, starts, goes, rfl⟩ := gives_bind.mp gives
  obtain ⟨kept, front⟩ := early starts holds
  obtain ⟨kept, behind⟩ := late result goes kept
  exact ⟨kept, fun note among => (List.mem_append.mp among).elim (front note) (behind note)⟩

/-- Taking good notes is allowed. -/
theorem holds_tell {told : List ν} (allowed : ∀ note ∈ told, good note) :
    (tell told : Noted ν β τ PUnit).Holds slot good := by
  -- The invocation stays as it is.
  intro before given notes after gives holds
  obtain ⟨rfl, rfl⟩ := gives_tell.mp gives
  exact ⟨holds, allowed⟩

/-- What is done with the invocation that is seen may rely on the slot. -/
theorem holds_get_bind {second : Invocation β → Noted ν β τ α}
    (next : ∀ seen : Invocation β, seen.joinpoint = slot → (second seen).Holds slot good) :
    ((liftM (MonadState.get : LayerRun β τ (Invocation β)) : Noted ν β τ _) >>= second).Holds
      slot good := by
  -- What is seen has the joinpoint of the slot.
  intro before given notes after gives holds
  exact next before.1 holds (gives_get_bind.mp gives) holds

/-- What follows a run whose notes are made part of its result may rely on these notes. -/
theorem Holds.lift_bind {μ : Type} {noted : Noted ν β τ α} {note : μ → Prop}
    {second : α × List ν → Noted μ β τ γ} (early : noted.Holds slot good)
    (late : ∀ result notes, (∀ item ∈ notes, good item) →
      (second (result, notes)).Holds slot note) :
    ((liftM noted.run : Noted μ β τ (α × List ν)) >>= second).Holds slot note := by
  -- The notes within are good, and they are handed on.
  intro before given notes after gives holds
  obtain ⟨⟨result, inner⟩, between, ran, goes⟩ := gives_liftM_bind.mp gives
  have gives : noted.Gives before result inner between := ran
  obtain ⟨kept, right⟩ := early gives holds
  exact late result inner right goes kept

/-- A run between two changes of the joinpoint slot leaves the slot as it was before the first. -/
theorem Holds.within {inner : Noted ν β τ α} {last : α → Noted ν β τ γ} {during : Option Nat}
    (holds : inner.Holds during good) (ends : ∀ result, (last result).Holds slot good) :
    ((liftM (MonadState.get : LayerRun β τ (Invocation β)) : Noted ν β τ _) >>= fun seen =>
      (liftM (Engine.setJoinpoint during : LayerRun β τ Unit) : Noted ν β τ _) >>= fun _ =>
        inner >>= fun result =>
          (liftM (Engine.setJoinpoint seen.joinpoint : LayerRun β τ Unit) : Noted ν β τ _) >>=
            fun _ => last result).Holds slot good := by
  intro before given notes after gives found
  rw [gives_get_bind, Engine.setJoinpoint, gives_modify_bind, gives_bind] at gives
  obtain ⟨result, _, between, _, runs, goes, rfl⟩ := gives
  rw [Engine.setJoinpoint, gives_modify_bind] at goes
  -- Whatever is left in the slot is overwritten.
  obtain ⟨kept, behind⟩ := ends result goes found
  have front := (holds runs rfl).2
  exact ⟨kept, fun note among => (List.mem_append.mp among).elim (front note) (behind note)⟩

end Noted

namespace Engine

open Noted

/-- A run that leaves the joinpoint slot as it found it, however it ends. -/
def Restores {α : Type} (run : LayerRun β τ α) : Prop :=
  ∀ ⦃before : Invocation β × State β τ⦄ ⦃result : α⦄ ⦃after : Invocation β × State β τ⦄,
    (run.run before.1).run before.2 = some ((result, after.1), after.2) →
      after.1.joinpoint = before.1.joinpoint

/-- A use of proceeding with a layer in the joinpoint slot. -/
def Uses (reachable : Nat → Option (Recorded β τ (Except ExecutionError Value)))
    (slot : Option Nat) (made : Proceeding β) : Prop :=
  ∃ start finish, start.1.joinpoint = slot ∧
    (recordProceed reachable).Gives start made.2 made.1 finish

/-- How a call of an invocation finds the joinpoint slot, and what it proceeds to. An around advice
finds the number of the layer directly inside it, and each time it proceeds that layer is run and
leaves the slot as it was. Any other advice finds the slot empty, and whenever it proceeds nothing
is called and proceeding fails. -/
inductive Slotted (engine : Engine β τ) (plan : Plan β) (core : Core β) : Call β → Prop where
  | around {level advice seen proceeds returned} (phase : advice.phase = .around)
      (outside : level < plan.depth)
      (present : (plan.ofPhase .around)[plan.depth - 1 - level]? = some advice)
      (slot : seen.joinpoint = some (level + 1))
      (inside : ∀ made ∈ proceeds, ∃ start finish,
        start.1.joinpoint = some (level + 1) ∧ finish.1.joinpoint = some (level + 1) ∧
          (engine.recordLayer plan core (level + 1)
            ((plan.ofPhase .around).reverse.drop (level + 1))).Gives start made.2 made.1 finish) :
      Slotted engine plan core (.advice advice seen proceeds returned)
  | other {advice seen proceeds returned} (phase : advice.phase ≠ .around)
      (slot : seen.joinpoint = none) (refused : ∀ made ∈ proceeds, Refused made) :
      Slotted engine plan core (.advice advice seen proceeds returned)
  | core {context ended} : Slotted engine plan core (.core core context ended)

variable {engine : Engine β τ} {plan : Plan β} {core : Core β} {slot : Option Nat}
  {reachable : Nat → Option (Recorded β τ (Except ExecutionError Value))}
  {good : Call β → Prop} {made : Proceeding β}

/-- A run restores the slot if its recording leaves in the slot whatever is there. -/
theorem restores_erase {ν α : Type} {noted : Noted ν β τ α}
    (holds : ∀ slot, noted.Holds slot fun _ => True) : Restores noted.erase := by
  -- The run without notes is part of the run with them.
  intro before result after ran
  obtain ⟨notes, gives⟩ := exists_gives ran
  exact (holds _ gives rfl).1

/-- Proceeding restores the slot, whatever the layers that can be reached do to it. -/
theorem restores_proceed (reachable : Nat → Option (LayerRun β τ (Except ExecutionError Value))) :
    Restores (proceed reachable) := by
  -- The layers are recorded without any notes.
  let recorded (layer : Nat) : Option (Recorded β τ (Except ExecutionError Value)) :=
    (reachable layer).map liftM
  have reaches (layer : Nat) : (recorded layer).map Noted.erase = reachable layer := by
    cases held : reachable layer <;> simp [recorded, held]
  intro before result after ran
  rw [← erase_recordProceed reaches] at ran
  obtain ⟨calls, gives⟩ := exists_gives ran
  exact (makes_of_gives gives).1

/-- Proceeding with nothing in the slot fails at once, whatever could be reached. -/
theorem run_proceed_of_empty
    (reachable : Nat → Option (LayerRun β τ (Except ExecutionError Value)))
    {invocation : Invocation β} (empty : invocation.joinpoint = none) (state : State β τ) :
    ((proceed reachable).run invocation).run state =
      some ((.error (.advice (.joinpointUnavailable invocation.context.target.label)), invocation),
        state) := by
  -- With the slot spelled out the run is computed.
  cases invocation
  cases empty
  rfl

/-- With nothing in the slot proceeding calls nothing and fails. -/
theorem Uses.refused (uses : Uses reachable none made) : Refused made := by
  -- There is no layer to run without a joinpoint.
  obtain ⟨start, finish, empty, gives⟩ := uses
  have makes := (makes_of_gives gives).2
  rwa [empty] at makes

/-- With a layer in the slot that can be reached proceeding runs that layer. -/
theorem Uses.exists_gives {layer : Recorded β τ (Except ExecutionError Value)}
    (uses : Uses reachable slot made) (reached : slot.bind reachable = some layer) :
    ∃ start finish, start.1.joinpoint = slot ∧ layer.Gives start made.2 made.1 finish := by
  -- Proceeding with a layer within reach runs this layer.
  obtain ⟨start, _, same, gives⟩ := uses
  subst same
  obtain ⟨between, inner, _⟩ := inner_of_recordProceed reached gives
  exact ⟨start, between, rfl, inner⟩

/-- Serving a request of an advice leaves the slot, from which each use of proceeding starts. -/
theorem holds_serveRecorded (request : AdviceRequest β τ) :
    (engine.serveRecorded reachable request).Holds slot (Uses reachable slot) := by
  cases request with
  | plain request => exact holds_of_confined (confined_lift _)
  | proceed context =>
    intro before answer proceeds after gives holds
    -- The context that the advice hands over does not hold the slot.
    rw [serveRecorded, modifyContext, gives_modify_bind, gives_liftM_bind] at gives
    obtain ⟨⟨result, calls⟩, _, ran, noted⟩ := gives
    obtain ⟨_, ends, rfl⟩ := gives_tell_bind.mp noted
    rw [gives_get_bind] at ends
    obtain ⟨_, rfl, rfl⟩ := gives_pure.mp ends
    refine ⟨(makes_of_gives ran).1.trans holds, fun made among => ?_⟩
    obtain rfl : made = (calls, result) := by simpa using among
    exact ⟨({ before.1 with context }, before.2), after, holds, ran⟩

/-- A program of an advice leaves the slot, from which each use of proceeding starts. -/
theorem holds_run {α : Type} (program : AdviceAction β τ α) :
    Noted.Holds (program.run (engine.serveRecorded reachable)) slot (Uses reachable slot) := by
  -- The induction is on the program.
  induction program with
  | done result => exact holds_pure result
  | ask asked next ih => exact (holds_serveRecorded asked).bind ih

/-- The call of an advice leaves the slot, and is good if it is with the slot as it was found. -/
theorem holds_recordAdvice {advice : Advice β}
    (called : ∀ seen proceeds returned, seen.joinpoint = slot →
      (∀ made ∈ proceeds, Uses reachable slot made) →
        good (.advice advice seen proceeds returned)) :
    (engine.recordAdvice advice reachable).Holds slot good := by
  -- The call is noted behind the body, with what the body has made by proceeding.
  refine holds_get_bind fun seen found => ?_
  refine (holds_run _).lift_bind fun answer proceeds uses => ?_
  refine (holds_of_confined (confined_modifyContext _)).bind fun _ => ?_
  refine (holds_tell ?_).bind fun _ => holds_pure _
  intro note among
  rw [List.mem_singleton.mp among]
  exact called seen proceeds _ found uses

section Innermost

variable (called : ∀ advice : Advice β, advice.phase ≠ .around →
  (engine.recordAdvice advice recordedNowhere).Holds slot good)
include called

/-- Observers leave the slot if each of them does. -/
theorem holds_recordObservers (label : String) (advices : List (Advice β))
    (beside : ∀ advice ∈ advices, advice.phase ≠ .around) :
    (engine.recordObservers label advices).Holds slot good := by
  -- The induction is on the advices that are still to be called.
  induction advices with
  | nil => exact holds_pure _
  | cons advice rest ih =>
    obtain ⟨first, others⟩ := List.forall_mem_cons.mp beside
    refine (called advice first).bind fun returned => ?_
    rcases returned with error | _ | value
    · exact holds_pure _
    · exact ih others
    · exact holds_pure _

/-- Substitutes leave the slot if each of them does. -/
theorem holds_recordSubstitutes (advices : List (Advice β))
    (beside : ∀ advice ∈ advices, advice.phase ≠ .around) :
    (engine.recordSubstitutes plan advices).Holds slot good := by
  -- The induction is on the advices that are still to be called.
  induction advices with
  | nil => exact (holds_of_confined confined_getValue).bind fun _ => holds_pure _
  | cons advice rest ih =>
    obtain ⟨first, others⟩ := List.forall_mem_cons.mp beside
    refine (called advice first).bind fun returned => ?_
    rcases returned with error | _ | value
    · exact holds_pure _
    · exact ih others
    · refine (holds_of_confined (confined_substitute plan advice value)).bind fun verdict => ?_
      cases verdict with
      | error error => exact holds_pure _
      | ok => exact ih others

/-- The innermost layer leaves the slot if each of its advices does. -/
theorem holds_recordInnermost (cored : ∀ context ended, good (.core core context ended)) :
    (engine.recordInnermost plan core).Holds slot good := by
  have beside {phase : Phase} (apart : phase ≠ .around) :
      ∀ advice ∈ plan.ofPhase phase, advice.phase ≠ .around := fun advice among => by
    rwa [Plan.phase_of_mem_ofPhase among]
  refine (holds_recordObservers called _ _ (beside (by decide))).bind fun verdict => ?_
  cases verdict with
  | error error => exact holds_pure _
  | ok =>
    refine holds_get_bind fun seen _ => ?_
    have runs : (engine.recordCore core seen.context).Holds slot good := by
      refine (holds_of_confined (confined_lift _)).bind fun ended => ?_
      refine (holds_tell ?_).bind fun _ => holds_pure _
      intro note among
      rw [List.mem_singleton.mp among]
      exact cored _ _
    refine runs.bind fun ended => ?_
    cases ended with
    | ok value =>
      refine (holds_of_confined (confined_modifyContext _)).bind fun _ => ?_
      exact holds_recordSubstitutes called _ (beside (by decide))
    | error error =>
      dsimp only
      split
      · exact holds_pure _
      · -- The error is put in and taken out again; the slot is none of its concern.
        have told (error : Option ExecutionError) :
            (liftM (modify fun invocation => { invocation with error } : LayerRun β τ Unit) :
              Recorded β τ Unit).Holds slot good :=
          holds_liftM fun _ _ _ _ _ ran => by cases ran; rfl
        refine (told _).bind fun _ => ?_
        refine (holds_of_confined (confined_modifyContext _)).bind fun _ => ?_
        refine (holds_recordSubstitutes called _ (beside (by decide))).bind fun _ => ?_
        exact (told _).bind fun _ => holds_pure _

end Innermost

/-- What follows the call of an around advice leaves the slot. -/
theorem holds_verdict (advice : Advice β) (returned : Except ExecutionError (Option Value)) :
    (do
      match returned with
      | .error error => return .error error
      | .ok none => return .ok (← (getValue : LayerRun β τ Value))
      | .ok (some value) =>
        match ← (substitute plan advice value : LayerRun β τ _) with
        | .error error => return .error error
        | .ok () => return .ok (← (getValue : LayerRun β τ Value)) :
      Recorded β τ (Except ExecutionError Value)).Holds slot good := by
  -- Neither of the answers touches the joinpoint.
  rcases returned with error | _ | value
  · exact holds_pure _
  · exact (holds_of_confined confined_getValue).bind fun _ => holds_pure _
  · refine (holds_of_confined (confined_substitute plan advice value)).bind fun verdict => ?_
    cases verdict with
    | error error => exact holds_pure _
    | ok => exact (holds_of_confined confined_getValue).bind fun _ => holds_pure _

/-- A layer restores the slot, wherever it is run and whatever its advices do. -/
theorem restores_runLayer (engine : Engine β τ) (plan : Plan β) (core : Core β) (level : Nat)
    (inner : List (Advice β)) : Restores (engine.runLayer plan core level inner) := by
  rw [← erase_recordLayer]
  refine restores_erase fun slot => ?_
  -- What is left in the slot is overwritten in the end, so that no induction is needed.
  cases inner with
  | nil =>
    refine Holds.within (holds_recordInnermost (fun advice _ => ?_) fun _ _ => trivial)
      fun _ => holds_pure _
    exact holds_recordAdvice fun _ _ _ _ _ => trivial
  | cons advice inner =>
    exact Holds.within (holds_recordAdvice fun _ _ _ _ _ => trivial) (holds_verdict advice)

/-- Whatever is among a call finds the slot as it must and proceeds to what it must. -/
def DeeplySlotted (engine : Engine β τ) (plan : Plan β) (core : Core β) (call : Call β) : Prop :=
  ∀ inner : Call β, inner.Among [call] → engine.Slotted plan core inner

/-- Whatever is among calls is among one of them. -/
theorem slotted_of_among {calls : List (Call β)} {call : Call β}
    (deep : ∀ made ∈ calls, engine.DeeplySlotted plan core made) (among : call.Among calls) :
    engine.Slotted plan core call := by
  -- Each call is slotted with all that happens within it.
  cases among with
  | here mem => exact deep call mem call (.here (List.mem_singleton_self call))
  | inside mem use among => exact deep _ mem call (.inside (List.mem_singleton_self _) use among)

/-- An advice that is not around one, called with nothing in the slot, leaves it so. -/
theorem holds_recordAdvice_nowhere {advice : Advice β} (phase : advice.phase ≠ .around) :
    (engine.recordAdvice advice recordedNowhere).Holds none (engine.DeeplySlotted plan core) := by
  -- Whatever such an advice asks for by proceeding is refused.
  refine holds_recordAdvice fun seen proceeds returned empty uses => ?_
  have refused : ∀ made ∈ proceeds, Refused made := fun made mem => (uses made mem).refused
  intro inner among
  rcases Call.among_advice.mp among with rfl | within
  · exact .other phase empty refused
  · exact absurd within (Call.not_among_of_refused refused)

/-- A layer leaves the slot, and all that is called meanwhile finds in it what it must. -/
theorem holds_recordLayer {level : Nat} {inner : List (Advice β)}
    (reach : inner = (plan.ofPhase .around).reverse.drop level) :
    (engine.recordLayer plan core level inner).Holds slot (engine.DeeplySlotted plan core) := by
  -- The induction is on the around advices inside; the invariant is that they are those that the
  -- layers outside have left.
  induction inner generalizing level slot with
  | nil =>
    refine Holds.within (holds_recordInnermost (fun _ => holds_recordAdvice_nowhere) ?_)
      fun _ => holds_pure _
    intro context ended inner among
    rw [Call.among_core.mp among]
    exact .core
  | cons advice inner ih =>
    obtain ⟨outside, present, rest⟩ := Plan.around_of_reach reach
    have phase : advice.phase = .around :=
      Plan.phase_of_mem_ofPhase (List.mem_of_getElem? present)
    refine Holds.within (holds_recordAdvice fun seen proceeds returned found uses => ?_)
      (holds_verdict advice)
    -- The next layer is in the slot during the call, and it is the one within reach.
    have inside : ∀ made ∈ proceeds, ∃ start finish, start.1.joinpoint = some (level + 1) ∧
        (engine.recordLayer plan core (level + 1) inner).Gives start made.2 made.1 finish :=
      fun made mem => (uses made mem).exists_gives (by simp)
    intro call among
    rcases Call.among_advice.mp among with rfl | ⟨made, mem, within⟩
    · refine .around phase outside present found fun made mem => ?_
      obtain ⟨start, finish, same, gives⟩ := inside made mem
      refine ⟨start, finish, same, (ih rest gives same).1, ?_⟩
      rwa [← rest]
    · obtain ⟨start, finish, same, gives⟩ := inside made mem
      exact slotted_of_among (ih rest gives same).2 within

/-- An invocation that starts with nothing in the slot leaves it so, and all that is called
meanwhile finds in it what it must. -/
theorem holds_recordPhases :
    (engine.recordPhases plan core).Holds none (engine.DeeplySlotted plan core) := by
  -- The layers come first, and the after advices see the invocation that is left by them.
  refine (holds_recordLayer rfl).bind fun result => ?_
  split
  · exact holds_pure _
  · have settled : (liftM (modify fun invocation => invocation.settle result : LayerRun β τ Unit) :
        Recorded β τ Unit).Holds none (engine.DeeplySlotted plan core) :=
      holds_liftM fun _ _ _ _ _ ran => by cases ran; cases result <;> rfl
    refine settled.bind fun _ => ?_
    have beside : ∀ advice ∈ plan.ofPhase .after, advice.phase ≠ .around := fun advice among => by
      rw [Plan.phase_of_mem_ofPhase among]
      decide
    refine (holds_recordObservers (fun _ => holds_recordAdvice_nowhere) _ _ beside).bind ?_
    intro verdict
    cases verdict with
    | error error => exact holds_pure _
    | ok => exact holds_get_bind fun _ _ => holds_pure _

/-- Every layer and every use of proceeding restores the joinpoint slot, however it ends, and with
nothing in the slot proceeding fails and changes nothing. So whatever a host does, all that is
called by an execution whose plan links finds in the slot what it must and proceeds to the layer
directly inside it, or nowhere. -/
theorem joinpoint_restored (engine : Engine β τ) :
    (∀ plan core level inner, Restores (engine.runLayer plan core level inner)) ∧
    (∀ reachable : Nat → Option (LayerRun β τ (Except ExecutionError Value)),
      Restores (proceed reachable) ∧
        ∀ invocation state, invocation.joinpoint = none →
          ((proceed reachable).run invocation).run state = some
            ((.error (.advice (.joinpointUnavailable invocation.context.target.label)), invocation),
              state)) ∧
    ∀ id natural receiver args start result finish,
      (engine.execute id natural receiver args).run start = some (result, finish) →
        ∃ calls, (engine.recordExecute id natural receiver args).run start =
            some ((result, calls), finish) ∧
          ((∃ error, (engine.link id natural).run start = some (.error error, finish) ∧
              result = .error error ∧ calls = []) ∨
            ∃ core linked state, (engine.link id natural).run start = some (.ok core, linked) ∧
              linked.world.plan? id = some state ∧
              ∀ call : Call β, call.Among calls → engine.Slotted state.plan core call) := by
  refine ⟨engine.restores_runLayer, fun reachable => ⟨restores_proceed reachable,
    fun _ state empty => run_proceed_of_empty reachable empty state⟩, ?_⟩
  intro id natural receiver args start result finish ran
  -- The run is a recorded one without its notes.
  rw [← erase_recordExecute] at ran
  obtain ⟨⟨ended, calls⟩, recorded, rfl⟩ := run_map_eq_some.mp ran
  refine ⟨calls, recorded, (begun_of_recordExecute recorded).imp_right ?_⟩
  intro ⟨core, linked, state, after, links, found, runs⟩
  refine ⟨core, linked, state, links, found, fun call among => ?_⟩
  -- An invocation starts with nothing in the slot.
  exact slotted_of_among (holds_recordPhases runs rfl).2 among

/-- A plan for a method with an around advice that proceeds twice, and a before and an after advice
that try it once. -/
def eagerPlan : Plan Nat :=
  let advice (name : String) (phase : Phase) (times : Nat) : Advice Nat :=
    ⟨name, ⟨phase, .of .method [] "*"⟩, "aspect", ⟨.lowest, 0, .lowest, 0⟩, times⟩
  { twicePlan with
    advices := [advice "tries" .before 1, advice "twice" .around 2, advice "late" .after 1] }

/-- The around advice proceeds to the same calls twice, and both times the before advice inside it
is refused, as is the after advice in the end. -/
theorem joinpoint_restored_twice :
    ∃ around before after seen within behind context returned finish,
      let label := eagerPlan.target.label
      let refusal : Proceeding Nat := ([], .error (.advice (.joinpointUnavailable label)))
      let inside :=
        [Call.advice before within [refusal] (.ok none), .core (.call 0) context (.ok .null)]
      let calls := [Call.advice around seen [(inside, .ok .null), (inside, .ok .null)] returned,
        .advice after behind [refusal] (.ok none)]
      ((proceedingHost.engine 0).recordExecute ⟨0⟩ (some (.method 0)) (some ⟨0⟩) []).run
          ⟨{ World.ofConfig .standard with plans := #[.fresh eagerPlan] }, 0⟩ =
        some ((.ok .null, calls), finish) ∧
      ∃ core, ∀ call : Call Nat, call.Among calls →
        (proceedingHost.engine 0).Slotted eagerPlan core call := by
  -- The run is computed, and the theorem tells how its calls found the slot.
  have ran : ((proceedingHost.engine 0).execute ⟨0⟩ (some (.method 0)) (some ⟨0⟩) []).run
      ⟨{ World.ofConfig .standard with plans := #[.fresh eagerPlan] }, 0⟩ =
    some (.ok .null, _) := rfl
  obtain ⟨calls, recorded, outcome⟩ :=
    (joinpoint_restored (proceedingHost.engine 0)).2.2 _ _ _ _ _ _ _ ran
  rcases outcome with ⟨_, links, _⟩ | ⟨core, linked, state, links, found, slotted⟩
  · cases links
  · cases links
    cases found
    cases recorded
    exact ⟨_, _, _, _, _, _, _, _, _, rfl, _, slotted⟩

end Engine

end AspectWeaving
