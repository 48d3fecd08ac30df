import AspectWeaving.Proofs.Engine.Fatality

/-! How the innermost layer of a method or a getter ends: which value the advices behind the core
make of what it returned, and which they make of its error. -/

namespace AspectWeaving

variable {β τ : Type}

/-- Calls of advices behind the core: all are told of the same error, if any, each sees the value so
far, which is what the last of those before it to return a value has returned, and the first that
fails is the last to be called. -/
inductive Replaces (told : Option ExecutionError) :
    Value → List (Advice β) → List (Call β) → Except ExecutionError Value → Prop where
  | nil {value} : Replaces told value [] [] (.ok value)
  | failed {value advice rest seen proceeds error} (sees : seen.context.value = value)
      (hears : seen.error = told) :
      Replaces told value (advice :: rest) [.advice advice seen proceeds (.error error)]
        (.error error)
  | kept {value advice rest seen proceeds calls ended} (sees : seen.context.value = value)
      (hears : seen.error = told) (others : Replaces told value rest calls ended) :
      Replaces told value (advice :: rest) (.advice advice seen proceeds (.ok none) :: calls) ended
  | replaced {value advice rest seen proceeds given calls ended}
      (sees : seen.context.value = value) (hears : seen.error = told)
      (others : Replaces told given rest calls ended) :
      Replaces told value (advice :: rest)
        (.advice advice seen proceeds (.ok (some given)) :: calls) ended

namespace Plan

/-- The calls of an innermost layer whose before advices return nothing, and how it ends. The core
is called once. A value that it returns may be replaced by the after-return advices. An error that
is fatal, or that no after-throw advice is there for, is how the layer ends. Any other is told to
the after-throw advices, which start from null. -/
inductive InnermostSettles (plan : Plan β) (core : Core β) :
    List (Call β) → Except ExecutionError Value → Prop where
  | returned {before context value follow ended}
      (passed : InTurn (observed plan.target.label) (plan.ofPhase .before) before (.ok ()))
      (follows : Replaces none value (plan.ofPhase .afterReturn) follow ended) :
      InnermostSettles plan core (before ++ .core core context (.ok value) :: follow) ended
  | failed {before context error}
      (passed : InTurn (observed plan.target.label) (plan.ofPhase .before) before (.ok ()))
      (final : error.isFatal = true ∨ plan.ofPhase .afterThrow = []) :
      InnermostSettles plan core (before ++ [.core core context (.error error)]) (.error error)
  | handled {before context error follow ended}
      (passed : InTurn (observed plan.target.label) (plan.ofPhase .before) before (.ok ()))
      (mild : error.isFatal = false) (watched : plan.ofPhase .afterThrow ≠ [])
      (follows : Replaces (some error) .null (plan.ofPhase .afterThrow) follow ended) :
      InnermostSettles plan core (before ++ .core core context (.error error) :: follow) ended

end Plan

namespace Engine

/-- An advice that returns normally and without a value whenever a call of it ends. -/
def ReturnsNothing (engine : Engine β τ) (advice : Advice β) : Prop :=
  ∀ ⦃invocation state returned left finish⦄,
    ((engine.callAdvice advice nowhere).run invocation).run state =
      some ((returned, left), finish) → returned = .ok none

/-- An advice that leaves the value in the context as it finds it whenever a call of it ends. -/
def SparesValue (engine : Engine β τ) (advice : Advice β) : Prop :=
  ∀ ⦃invocation state returned left finish⦄,
    ((engine.callAdvice advice nowhere).run invocation).run state =
      some ((returned, left), finish) → left.context.value = invocation.context.value

/-- A part of an invocation that ends wherever it starts. -/
def Ends {α : Type} (run : LayerRun β τ α) : Prop :=
  ∀ invocation state, ∃ result left finish,
    (run.run invocation).run state = some ((result, left), finish)

/-- A core and advices whose calls all end. -/
structure AllEnd (engine : Engine β τ) (plan : Plan β) (core : Core β) : Prop where
  core : ∀ context state, ∃ ended finish,
    (engine.runCore core context).run state = some (ended, finish)
  advice : ∀ advice ∈ plan.advices, Ends (engine.callAdvice advice nowhere)

section Ends

variable {α γ : Type}

/-- A result alone is an end. -/
theorem ends_pure (result : α) : Ends (pure result : LayerRun β τ α) :=
  fun invocation state => ⟨result, invocation, state, rfl⟩

/-- Two parts one after the other end if both do. -/
theorem Ends.bind {first : LayerRun β τ α} {second : α → LayerRun β τ γ} (early : Ends first)
    (late : ∀ result, Ends (second result)) : Ends (first >>= second) := by
  intro invocation state
  -- The second part starts where the first one has ended.
  obtain ⟨result, left, between, ran⟩ := early invocation state
  obtain ⟨last, after, finish, goes⟩ := late result left between
  refine ⟨last, after, finish, ?_⟩
  rw [StateT.run_bind]
  exact run_bind_eq_some.mpr ⟨(result, left), between, ran, goes⟩

/-- Looking at the invocation ends. -/
theorem ends_get : Ends (MonadState.get : LayerRun β τ (Invocation β)) :=
  fun invocation state => ⟨invocation, invocation, state, rfl⟩

/-- Changing the invocation ends. -/
theorem ends_modify (change : Invocation β → Invocation β) :
    Ends (modify change : LayerRun β τ Unit) :=
  fun invocation state => ⟨(), change invocation, state, rfl⟩

/-- Taking a value or refusing it ends. -/
theorem ends_substitute (plan : Plan β) (advice : Advice β) (value : Value) :
    Ends (substitute plan advice value : LayerRun β τ _) := by
  -- A value is taken or refused at once.
  unfold substitute
  split
  · exact ends_pure _
  · exact (ends_modify _).bind fun _ => ends_pure _

variable {engine : Engine β τ}

/-- Observers end if each of their calls does. -/
theorem ends_runObservers {label : String} {advices : List (Advice β)}
    (called : ∀ advice ∈ advices, Ends (engine.callAdvice advice nowhere)) :
    Ends (engine.runObservers label advices) := by
  -- The induction is on the advices that are still to be called.
  induction advices with
  | nil => exact ends_pure _
  | cons advice rest ih =>
    obtain ⟨first, others⟩ := List.forall_mem_cons.mp called
    apply first.bind
    intro returned
    -- Only an observer that returns nothing lets the next one be called.
    rcases returned with error | _ | value
    · exact ends_pure _
    · exact ih others
    · exact ends_pure _

/-- Substitutes end if each of their calls does. -/
theorem ends_runSubstitutes {plan : Plan β} {advices : List (Advice β)}
    (called : ∀ advice ∈ advices, Ends (engine.callAdvice advice nowhere)) :
    Ends (engine.runSubstitutes plan advices) := by
  -- The induction is on the advices that are still to be called.
  induction advices with
  | nil => exact (ends_get.bind fun _ => ends_pure _).bind fun _ => ends_pure _
  | cons advice rest ih =>
    obtain ⟨first, others⟩ := List.forall_mem_cons.mp called
    apply first.bind
    intro returned
    rcases returned with error | _ | value
    · exact ends_pure _
    · exact ih others
    -- A value is taken or refused before the next one is called.
    · apply (ends_substitute plan advice value).bind
      intro verdict
      cases verdict with
      | error error => exact ends_pure _
      | ok => exact ih others

/-- The innermost layer ends if the core and all advices do. -/
theorem ends_runInnermost {plan : Plan β} {core : Core β} (all : engine.AllEnd plan core) :
    Ends (engine.runInnermost plan core) := by
  have called (phase : Phase) : ∀ advice ∈ plan.ofPhase phase,
      Ends (engine.callAdvice advice nowhere) :=
    fun advice mem => all.advice advice (List.mem_filter.mp mem).1
  apply (ends_runObservers (called .before)).bind
  intro verdict
  cases verdict with
  | error error => exact ends_pure _
  | ok =>
    have cored (context : AdviceContext β) : Ends (StateT.lift
        (engine.runCore core context) : LayerRun β τ _) := by
      intro invocation state
      obtain ⟨ended, finish, ran⟩ := all.core context state
      refine ⟨ended, invocation, finish, ?_⟩
      rw [StateT.run_lift]
      exact run_bind_eq_some.mpr ⟨ended, finish, ran, rfl⟩
    -- The core runs in the context that the before advices have left.
    apply ends_get.bind
    intro invocation
    apply (cored invocation.context).bind
    intro ended
    cases ended with
    | ok value => exact (ends_modify _).bind fun _ => ends_runSubstitutes (called .afterReturn)
    | error error =>
      dsimp only
      -- The error is the end, or else it is handled, which ends as well.
      split
      · exact ends_pure _
      · apply (ends_modify _).bind
        intro _
        apply (ends_modify _).bind
        intro _
        apply (ends_runSubstitutes (called .afterThrow)).bind
        intro _
        exact (ends_modify _).bind fun _ => ends_pure _

end Ends

variable {engine : Engine β τ} {plan : Plan β} {core : Core β}
  {before after : Invocation β × State β τ} {calls : List (Call β)}

/-- Recording the call of an advice is making it. -/
theorem run_of_recordAdvice {advice : Advice β} {returned : Except ExecutionError (Option Value)}
    (gives : (engine.recordAdvice advice recordedNowhere).Gives before returned calls after) :
    ((engine.callAdvice advice nowhere).run before.1).run before.2 =
      some ((returned, after.1), after.2) := by
  -- The notes are left out.
  rw [← erase_recordAdvice_nowhere]
  exact gives.run_erase

/-- Observers that return nothing let what they observe go on. -/
theorem ok_of_recordObservers {label : String} {advices : List (Advice β)}
    {verdict : Except ExecutionError Unit}
    (silent : ∀ advice ∈ advices, engine.ReturnsNothing advice)
    (gives : (engine.recordObservers label advices).Gives before verdict calls after) :
    verdict = .ok () := by
  -- The induction is on the advices that are still to be called.
  induction advices generalizing before calls with
  | nil => exact (Noted.gives_pure.mp gives).1
  | cons advice rest ih =>
    rw [recordObservers, Noted.gives_bind] at gives
    obtain ⟨returned, _, between, late, called, goes, _⟩ := gives
    -- The first has returned nothing, and so the rest is called.
    obtain ⟨first, others⟩ := List.forall_mem_cons.mp silent
    obtain rfl := first (run_of_recordAdvice called)
    exact ih others goes

/-- At a method or a getter every value is taken, and goes into the context. -/
theorem taken_of_substitute (free : plan.joinpoint = .call ∨ plan.joinpoint = .get)
    {advice : Advice β} {value : Value} {verdict : Except ExecutionError Unit}
    (ran : ((substitute plan advice value).run before.1).run before.2 =
      some ((verdict, after.1), after.2)) :
    verdict = .ok () ∧ after.1.context.value = value := by
  -- Neither joinpoint has anything against a value, whatever the phase.
  have passes : plan.joinpoint.checkValue advice.phase advice.key plan.target.label value =
      .ok () := by
    rcases free with joinpoint | joinpoint <;> rw [joinpoint] <;> rfl
  obtain ⟨invocation, state⟩ := after
  simp only [substitute, passes] at ran
  cases ran
  exact ⟨rfl, rfl⟩

/-- Substitutes that leave the value in the context alone replace it by what they return. -/
theorem replaces_of_recordSubstitutes (free : plan.joinpoint = .call ∨ plan.joinpoint = .get)
    {advices : List (Advice β)} {ended : Except ExecutionError Value}
    (spares : ∀ advice ∈ advices, engine.SparesValue advice)
    (gives : (engine.recordSubstitutes plan advices).Gives before ended calls after) :
    Replaces before.1.error before.1.context.value advices calls ended := by
  -- The induction is on the advices that are still to be called.
  induction advices generalizing before calls with
  | nil =>
    rw [recordSubstitutes, Noted.gives_liftM_bind] at gives
    obtain ⟨value, between, looked, goes⟩ := gives
    obtain ⟨rfl, rfl, _⟩ := Noted.gives_pure.mp goes
    have same : before.1.context.value = value :=
      congrArg (fun ended => ended.1.1) (Option.some.inj looked)
    rw [same]
    exact .nil
  | cons advice rest ih =>
    rw [recordSubstitutes, Noted.gives_bind] at gives
    obtain ⟨returned, _, between, late, called, goes, rfl⟩ := gives
    obtain ⟨first, others⟩ := List.forall_mem_cons.mp spares
    -- The advice leaves both the value and the error for the next one to see.
    have value := first (run_of_recordAdvice called)
    have error := (kept_of_recordAdvice called).error_eq
    obtain ⟨proceeds, rfl, _⟩ := gives_recordAdvice_nowhere called
    -- It has failed, which is the end, or the next one sees the value that it kept or gave.
    rcases returned with failure | _ | given
    · obtain ⟨rfl, rfl, _⟩ := Noted.gives_pure.mp goes
      exact .failed rfl rfl
    · have rest := ih others goes
      rw [value, error] at rest
      exact .kept rfl rfl rest
    · obtain ⟨verdict, changed, taken, ends⟩ := Noted.gives_liftM_bind.mp goes
      obtain ⟨rfl, replaced⟩ := taken_of_substitute free taken
      have rest := ih others ends
      rw [replaced, (kept_of_substitute taken).error_eq, error] at rest
      exact .replaced rfl rfl rest

/-- The innermost layer ends as its calls say. -/
theorem settles_of_recordInnermost (free : plan.joinpoint = .call ∨ plan.joinpoint = .get)
    (silent : ∀ advice ∈ plan.ofPhase .before, engine.ReturnsNothing advice)
    (returning : ∀ advice ∈ plan.ofPhase .afterReturn, engine.SparesValue advice)
    (throwing : ∀ advice ∈ plan.ofPhase .afterThrow, engine.SparesValue advice)
    (quiet : before.1.error = none) {ended : Except ExecutionError Value}
    (gives : (engine.recordInnermost plan core).Gives before ended calls after) :
    plan.InnermostSettles core calls ended := by
  -- The cases are the ways in which an innermost layer can run; no before advice bars this one.
  cases innermostRuns_of_recordInnermost gives with
  | barred observes => cases ok_of_recordObservers silent observes
  | returned observes told valued follows =>
    have replaces := replaces_of_recordSubstitutes free returning follows
    rw [told, quiet, valued] at replaces
    exact .returned (inTurn_of_recordObservers observes) replaces
  | handled observes mild watched told valued follows =>
    have replaces := replaces_of_recordSubstitutes free throwing follows
    rw [told, valued] at replaces
    exact .handled (inTurn_of_recordObservers observes) mild watched replaces
  | failed observes final => exact .failed (inTurn_of_recordObservers observes) final

/-- Proceeding from an invocation without an error hands back one without an error, whatever the
layers inside it do. -/
theorem quiet_of_proceed {level : Nat} {inner : List (Advice β)} {context : AdviceContext β}
    {invocation left : Invocation β} {start finish : State β τ}
    {answer : Except ExecutionError Value × Invocation β} (quiet : invocation.error = none)
    (ran : ((engine.serveAdvice (fun layer => if layer = level + 1 then
        some (engine.runLayer plan core (level + 1) inner) else none)
      (.proceed context)).run invocation).run start = some ((answer, left), finish)) :
    left.error = none ∧ answer.2 = left := by
  have reaches :=
    map_erase_reachable (engine.erase_recordLayer plan core (level + 1) inner) (level + 1)
  have inside :=
    confined_reachable (engine.confined_recordLayer plan core (level + 1) inner) (level + 1)
  rw [← engine.erase_serveRecorded reaches] at ran
  obtain ⟨proceeds, gives⟩ : ∃ proceeds, Noted.Gives _ (invocation, start) answer proceeds
      (left, finish) := Noted.exists_gives ran
  refine ⟨(confined_serveRecorded inside _ gives quiet).error_eq.trans quiet, ?_⟩
  -- The invocation is looked at last.
  rw [serveRecorded, modifyContext, Noted.gives_modify_bind, Noted.gives_liftM_bind] at gives
  obtain ⟨_, between, _, noted⟩ := gives
  obtain ⟨_, ends, _⟩ := Noted.gives_tell_bind.mp noted
  rw [Noted.gives_get_bind, Noted.gives_pure] at ends
  obtain ⟨rfl, _, same⟩ := ends
  rw [← same]

/-- The innermost layer of a method or a getter, whose before advices return nothing and whose other
advices leave the value in the context to be replaced by what they return. However the bodies go on,
as long as they all end it ends too. It ends as its calls say and leaves no error behind; and so do
the layers around it, for an around advice to proceed again. -/
theorem runInnermost_settles (engine : Engine β τ) {plan : Plan β} (core : Core β)
    (free : plan.joinpoint = .call ∨ plan.joinpoint = .get)
    (silent : ∀ advice ∈ plan.ofPhase .before, engine.ReturnsNothing advice)
    (returning : ∀ advice ∈ plan.ofPhase .afterReturn, engine.SparesValue advice)
    (throwing : ∀ advice ∈ plan.ofPhase .afterThrow, engine.SparesValue advice)
    {invocation : Invocation β} (quiet : invocation.error = none) (start : State β τ) :
    (engine.AllEnd plan core → ∃ ended left finish,
      ((engine.runInnermost plan core).run invocation).run start =
        some ((ended, left), finish)) ∧
    (∀ ended left finish, ((engine.runInnermost plan core).run invocation).run start =
        some ((ended, left), finish) →
      left.error = none ∧ ∃ calls, plan.InnermostSettles core calls ended ∧
        (engine.recordInnermost plan core).Gives (invocation, start) ended calls
          (left, finish)) ∧
    ∀ level inner context answer left finish,
      ((engine.serveAdvice (fun layer => if layer = level + 1 then
          some (engine.runLayer plan core (level + 1) inner) else none)
        (.proceed context)).run invocation).run start = some ((answer, left), finish) →
      left.error = none ∧ answer.2 = left := by
  -- Each part has its own lemma, of which the last two are about the recorded run.
  refine ⟨fun all => ends_runInnermost all invocation start, ?_, ?_⟩
  · intro ended left finish ran
    rw [← erase_recordInnermost] at ran
    obtain ⟨calls, gives⟩ : ∃ calls, (engine.recordInnermost plan core).Gives (invocation, start)
        ended calls (left, finish) := Noted.exists_gives ran
    have cleared := (confined_recordInnermost plan core gives quiet).error_eq
    exact ⟨cleared.trans quiet, calls,
      settles_of_recordInnermost free silent returning throwing quiet gives, gives⟩
  · intro level inner context answer left finish ran
    exact quiet_of_proceed quiet ran

/-- What a body replies. -/
abbrev Reply : Type := Except ExecutionError (Option Value)

/-- A host whose methods and advices give their codes as replies. -/
def replyingHost : Host Reply Unit where
  initializer _ _ _ := .done (.ok ())
  method reply _ _ := .done (reply.map fun value => value.getD .null)
  getter _ _ := .done (.ok .null)
  setter _ _ _ := .done (.ok ())
  stub _ _ _ := .done (.ok ())
  compile _ context := .done (.ok none, context)
  advice reply invocation := .done (reply, invocation.context)

/-- A plan for a method with a before advice that returns nothing, and two others of one phase. -/
def repliedPlan (phase : Phase) (first second : Reply) : Plan Reply where
  target :=
    let root : Target := .root ⟨⟨0⟩, "A", "A"⟩ (.ofClass ⟨0⟩)
    .method root.owner (.ofMethod ⟨0⟩ "m") "m" root root
  joinpoint := .call
  annotations := []
  advices :=
    let advice (phase : Phase) (reply : Reply) : Advice Reply :=
      ⟨"reply", ⟨phase, .of .method [] "*"⟩, "aspect", ⟨.lowest, 0, .lowest, 0⟩, reply⟩
    [advice .before (.ok none), advice phase first, advice phase second]

/-- An advice of this host gives its reply and changes nothing. -/
theorem run_replyingHost {advice : Advice Reply} {invocation : Invocation Reply}
    {state : State Reply Unit} :
    (((replyingHost.engine 0).callAdvice advice nowhere).run invocation).run state =
      some ((advice.body, invocation), state) := rfl

/-- All calls of this host end, its advices leave the value alone, and those that reply nothing
return nothing. -/
theorem replyingHost_behaves (plan : Plan Reply) (reply : Reply) :
    (replyingHost.engine 0).AllEnd plan (.call reply) ∧
      (∀ advice, (replyingHost.engine 0).SparesValue advice) ∧
      ∀ advice : Advice Reply, advice.body = .ok none →
        (replyingHost.engine 0).ReturnsNothing advice := by
  -- The host replies at once whatever it is asked, so that nothing can go on forever or touch the
  -- value.
  refine ⟨⟨fun context state => ?_, fun advice _ _ _ => ⟨_, _, _, run_replyingHost⟩⟩, ?_, ?_⟩
  · cases missing : context.receiver with
    | none => exact ⟨_, _, by simp only [runCore, missing]; rfl⟩
    | some receiver => exact ⟨_, _, by simp only [runCore, missing]; rfl⟩
  · intro advice invocation state returned left finish ran
    cases run_replyingHost.symm.trans ran
    rfl
  · intro advice silent invocation state returned left finish ran
    cases run_replyingHost.symm.trans ran
    exact silent

/-- An error that the method throws is handled: the first of two after-throw advices returns a
value, the second keeps it, and no error is left. -/
theorem runInnermost_settles_handled :
    let engine := replyingHost.engine 0
    let plan := repliedPlan .afterThrow (.ok (some (.token 1))) (.ok none)
    let error : ExecutionError := .thrown ⟨"oops", none⟩
    let invocation := Invocation.begin plan.target plan.annotations (some ⟨0⟩) []
    let start : State Reply Unit := ⟨World.ofConfig .standard, ()⟩
    plan.joinpoint = .call ∧ engine.AllEnd plan (.call (.error error)) ∧
      (∀ advice ∈ plan.ofPhase .before, engine.ReturnsNothing advice) ∧
      (∀ advice ∈ plan.ofPhase .afterReturn, engine.SparesValue advice) ∧
      (∀ advice ∈ plan.ofPhase .afterThrow, engine.SparesValue advice) ∧
      invocation.error = none ∧
      ∃ calls left finish,
        plan.InnermostSettles (.call (.error error)) calls (.ok (.token 1)) ∧ left.error = none ∧
        (engine.recordInnermost plan (.call (.error error))).Gives (invocation, start)
          (.ok (.token 1)) calls (left, finish) := by
  intro engine plan error invocation start
  obtain ⟨all, spares, silent⟩ := replyingHost_behaves plan (.error error)
  have quiet : ∀ advice ∈ plan.ofPhase .before, engine.ReturnsNothing advice := by
    intro advice mem
    obtain rfl := List.mem_singleton.mp mem
    exact silent _ rfl
  have settles := runInnermost_settles engine (.call (.error error)) (.inl rfl) quiet
    (fun advice _ => spares advice) (fun advice _ => spares advice)
    (rfl : invocation.error = none) start
  obtain ⟨ended, left, finish, ran⟩ := settles.1 all
  -- The theorem gives the run, which is computed to see how it ends.
  have computed : ((engine.runInnermost plan (.call (.error error))).run invocation).run start =
    some ((.ok (.token 1), _), _) := rfl
  cases computed.symm.trans ran
  obtain ⟨cleared, calls, settled, gives⟩ := settles.2.1 _ _ _ ran
  exact ⟨rfl, all, quiet, fun advice _ => spares advice, fun advice _ => spares advice, rfl, calls,
    _, _, settled, cleared, gives⟩

/-- An error of an after-return advice is how the layer ends, although the method has returned a
value and all advices behave as they should; the advice behind it is not called. -/
theorem returned_value_lost :
    let engine := replyingHost.engine 0
    let late : ExecutionError := .thrown ⟨"late", none⟩
    let plan := repliedPlan .afterReturn (.error late) (.ok (some (.token 2)))
    let core : Core Reply := .call (.ok (some (.token 1)))
    let invocation := Invocation.begin plan.target plan.annotations (some ⟨0⟩) []
    let start : State Reply Unit := ⟨World.ofConfig .standard, ()⟩
    plan.joinpoint = .call ∧ engine.AllEnd plan core ∧
      (∀ advice ∈ plan.ofPhase .before, engine.ReturnsNothing advice) ∧
      (∀ advice ∈ plan.ofPhase .afterReturn ++ plan.ofPhase .afterThrow,
        engine.SparesValue advice) ∧
      (engine.runCore core invocation.context).run start =
        some (.ok (.token 1), start) ∧
      ∃ left finish, ((engine.runInnermost plan core).run invocation).run start =
        some ((.error late, left), finish) := by
  -- The core returns a value, and then the advice after it fails.
  intro engine late plan core invocation start
  obtain ⟨all, spares, silent⟩ := replyingHost_behaves plan (.ok (some (.token 1)))
  refine ⟨rfl, all, fun advice mem => ?_, fun advice _ => spares advice, rfl, _, _, rfl⟩
  obtain rfl := List.mem_singleton.mp mem
  exact silent _ rfl

end Engine

end AspectWeaving
