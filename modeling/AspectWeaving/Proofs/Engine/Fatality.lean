import AspectWeaving.Proofs.Engine.Layering

/-! Fatal errors during an invocation: who is told of one, and when it is the end. -/

namespace AspectWeaving

variable {β τ : Type}

/-- A call is among calls: it is one of them, or is made while one of them proceeds. -/
inductive Call.Among (call : Call β) : List (Call β) → Prop where
  | here {calls} (mem : call ∈ calls) : call.Among calls
  | inside {calls advice seen proceeds returned made}
      (mem : Call.advice advice seen proceeds returned ∈ calls) (use : made ∈ proceeds)
      (among : call.Among made.1) : call.Among calls

namespace Call

variable {call : Call β}

/-- Nothing is among no calls. -/
@[simp]
theorem not_among_nil : ¬call.Among [] := by
  -- There is no call that could hold it.
  rintro (mem | ⟨mem, _, _⟩) <;> cases mem

/-- What is among two lists of calls is among one of them. -/
theorem among_append {first second : List (Call β)} :
    call.Among (first ++ second) ↔ call.Among first ∨ call.Among second := by
  constructor
  · rintro (mem | ⟨mem, use, among⟩)
    · exact (List.mem_append.mp mem).imp .here .here
    · exact (List.mem_append.mp mem).imp (.inside · use among) (.inside · use among)
  -- Joining lists takes nothing away.
  · rintro ((mem | ⟨mem, use, among⟩) | (mem | ⟨mem, use, among⟩))
    · exact .here (List.mem_append_left _ mem)
    · exact .inside (List.mem_append_left _ mem) use among
    · exact .here (List.mem_append_right _ mem)
    · exact .inside (List.mem_append_right _ mem) use among

/-- What is among the calls from one on is among it alone or among the rest. -/
theorem among_cons {first : Call β} {rest : List (Call β)} :
    call.Among (first :: rest) ↔ call.Among [first] ∨ call.Among rest := by
  -- A list is its first call and the rest.
  rw [← List.singleton_append, among_append]

/-- Among the call of an advice are that call and those that it makes by proceeding. -/
theorem among_advice {advice : Advice β} {seen : Invocation β} {proceeds : List (Proceeding β)}
    {returned : Except ExecutionError (Option Value)} :
    call.Among [.advice advice seen proceeds returned] ↔
      call = .advice advice seen proceeds returned ∨ ∃ made ∈ proceeds, call.Among made.1 := by
  -- Either the call is meant, or one that was made by proceeding.
  constructor
  · rintro (mem | ⟨mem, use, among⟩)
    · exact .inl (List.mem_singleton.mp mem)
    · cases List.mem_singleton.mp mem
      exact .inr ⟨_, use, among⟩
  · rintro (rfl | ⟨made, use, among⟩)
    · exact .here (List.mem_singleton.mpr rfl)
    · exact .inside (List.mem_singleton.mpr rfl) use among

/-- Only the call of the core is among it. -/
theorem among_core {core : Core β} {context : AdviceContext β}
    {ended : Except ExecutionError Value} :
    call.Among [.core core context ended] ↔ call = .core core context ended := by
  -- Nothing happens within a run of the core.
  constructor
  · rintro (mem | ⟨mem, _, _⟩)
    · exact List.mem_singleton.mp mem
    · cases List.mem_singleton.mp mem
  · rintro rfl
    exact .here (List.mem_singleton.mpr rfl)

/-- Where proceeding is refused no calls are made. -/
theorem not_among_of_refused {proceeds : List (Proceeding β)}
    (refused : ∀ made ∈ proceeds, Refused made) : ¬∃ made ∈ proceeds, call.Among made.1 := by
  -- Proceeding that is refused makes no calls.
  rintro ⟨made, use, within⟩
  rw [(refused made use).1] at within
  exact not_among_nil within

end Call

/-- After-throw advices are told only of errors that are not fatal. -/
def Spared (calls : List (Call β)) : Prop :=
  ∀ advice seen proceeds returned, (Call.advice advice seen proceeds returned).Among calls →
    advice.phase = .afterThrow → ∃ error, seen.error = some error ∧ error.isFatal = false

/-- Every around advice that gets an error from proceeding returns it. -/
def PassedOn (error : ExecutionError) (calls : List (Call β)) : Prop :=
  ∀ advice seen proceeds returned, (Call.advice advice seen proceeds returned).Among calls →
    advice.phase = .around → ∀ made ∈ proceeds, made.2 = .error error → returned = .error error

namespace Plan

/-- Whether the phase of an advice and the joinpoint let it return a value. -/
def allows (plan : Plan β) (advice : Advice β) (value : Value) : Except AdviceError Unit :=
  match advice.phase with
  | .before | .after => .error (.unexpectedReturn advice.phase advice.key plan.target.label)
  | phase => plan.joinpoint.checkValue phase advice.key plan.target.label value

/-- A call raises a fatal error: the core fails with it, or an advice returns a value that it may
not return. -/
def Raises (plan : Plan β) (error : ExecutionError) : Call β → Prop
  | .core _ _ ended => ended = .error error ∧ error.isFatal = true
  | .advice advice _ _ returned => ∃ value breach, returned = .ok (some value) ∧
      plan.allows advice value = .error breach ∧ error = .advice breach

/-- A fatal error is raised among calls. -/
def Raised (plan : Plan β) (error : ExecutionError) (calls : List (Call β)) : Prop :=
  ∃ call, call.Among calls ∧ plan.Raises error call

/-- No after advice fails with another error or returns a value in spite of it. -/
def Unreplaced (plan : Plan β) (error : ExecutionError) (calls : List (Call β)) : Prop :=
  ∀ advice seen proceeds returned other, Call.advice advice seen proceeds returned ∈ calls →
    advice.phase = .after → observed plan.target.label advice returned = .error other →
      other = error

/-- Where the fatal errors of an invocation go. After-throw advices are told of none. One that an
after advice raises is how the invocation ends. So is any other, unless an around advice that gets
it from proceeding returns something else, or an after advice replaces it. -/
structure Escalates (plan : Plan β) (calls : List (Call β))
    (ended : Except ExecutionError Value) : Prop where
  spared : Spared calls
  last : ∀ error advice seen proceeds returned,
    Call.advice advice seen proceeds returned ∈ calls → advice.phase = .after →
      plan.Raises error (.advice advice seen proceeds returned) → ended = .error error
  reaches : ∀ error, plan.Raised error calls → PassedOn error calls →
    plan.Unreplaced error calls → ended = .error error

variable {plan : Plan β} {error : ExecutionError}

/-- What is raised among two lists of calls is raised among one of them. -/
theorem raised_append {first second : List (Call β)} :
    plan.Raised error (first ++ second) ↔ plan.Raised error first ∨ plan.Raised error second := by
  -- Each call is among the first ones or among the others.
  simp only [Raised, Call.among_append, or_and_right, exists_or]

/-- What is raised among the calls from one on is raised among it alone or among the rest. -/
theorem raised_cons {first : Call β} {rest : List (Call β)} :
    plan.Raised error (first :: rest) ↔ plan.Raised error [first] ∨ plan.Raised error rest := by
  -- A list is its first call and the rest.
  rw [← List.singleton_append, raised_append]

/-- The call of an advice raises what it raises itself or by proceeding. -/
theorem raised_advice {advice : Advice β} {seen : Invocation β} {proceeds : List (Proceeding β)}
    {returned : Except ExecutionError (Option Value)} :
    plan.Raised error [.advice advice seen proceeds returned] ↔
      plan.Raises error (.advice advice seen proceeds returned) ∨
        ∃ made ∈ proceeds, plan.Raised error made.1 := by
  -- The error is raised by the call itself, or by one that was made by proceeding from it.
  unfold Raised
  simp only [Call.among_advice]
  constructor
  · rintro ⟨call, rfl | ⟨made, use, among⟩, raises⟩
    · exact .inl raises
    · exact .inr ⟨made, use, call, among, raises⟩
  · rintro (raises | ⟨made, use, call, among, raises⟩)
    · exact ⟨_, .inl rfl, raises⟩
    · exact ⟨call, .inr ⟨made, use, among⟩, raises⟩

/-- The call of the core raises what the core raises. -/
theorem raised_core {core : Core β} {context : AdviceContext β}
    {ended : Except ExecutionError Value} :
    plan.Raised error [.core core context ended] ↔
      plan.Raises error (.core core context ended) := by
  -- There is one call, the run of the core.
  simp only [Raised, Call.among_core, exists_eq_left]

/-- Where proceeding is refused nothing is raised. -/
theorem not_raised_of_refused {proceeds : List (Proceeding β)}
    (refused : ∀ made ∈ proceeds, Refused made) :
    ¬∃ made ∈ proceeds, plan.Raised error made.1 := by
  -- Without calls nothing is raised.
  rintro ⟨made, use, call, among, _⟩
  exact Call.not_among_of_refused refused ⟨made, use, among⟩

/-- Advices of a phase have that phase. -/
theorem phase_of_mem_ofPhase {advice : Advice β} {phase : Phase}
    (mem : advice ∈ plan.ofPhase phase) : advice.phase = phase :=
  -- The advices of a phase are filtered by it.
  beq_iff_eq.mp (List.mem_filter.mp mem).2

/-- A verdict that lets the advices of a sequence return the values that they may return. -/
def Judges (plan : Plan β) (advices : List (Advice β))
    (verdict : Advice β → Except ExecutionError (Option Value) → Except ExecutionError Unit) :
    Prop :=
  ∀ advice ∈ advices, ∀ value,
    verdict advice (.ok (some value)) = (plan.allows advice value).mapError .advice

/-- Observers are not to return values. -/
theorem judges_observed {phase : Phase} (observing : phase = .before ∨ phase = .after) :
    plan.Judges (plan.ofPhase phase) (observed plan.target.label) := by
  -- What is allowed of a phase is read off the kind of the phase.
  intro advice mem value
  rw [← phase_of_mem_ofPhase mem] at observing
  rcases observing with same | same <;> simp only [allows, same] <;> rw [observed, same] <;> rfl

/-- Substitutes may return what the joinpoint takes. -/
theorem judges_substituted {phase : Phase} (substituting : phase ≠ .before ∧ phase ≠ .after) :
    plan.Judges (plan.ofPhase phase) (substituted plan) := by
  -- Phases that may give values are judged by the joinpoint.
  intro advice mem value
  rw [← phase_of_mem_ofPhase mem] at substituting
  rw [substituted, allows]
  split
  · next same => exact absurd same substituting.1
  · next same => exact absurd same substituting.2
  · rfl

end Plan

section Turns

variable {verdict : Advice β → Except ExecutionError (Option Value) → Except ExecutionError Unit}
  {plan : Plan β} {advices : List (Advice β)} {calls : List (Call β)}
  {ended : Except ExecutionError Unit} {error : ExecutionError}

/-- Among calls in turn are only those calls, which are of the advices in the sequence. -/
theorem InTurn.mem_of_among {advice : Advice β} {seen : Invocation β}
    {proceeds : List (Proceeding β)} {returned : Except ExecutionError (Option Value)}
    (turns : InTurn verdict advices calls ended)
    (among : (Call.advice advice seen proceeds returned).Among calls) :
    advice ∈ advices ∧ Call.advice advice seen proceeds returned ∈ calls := by
  -- The induction is on the calls, none of which makes others by proceeding.
  induction turns with
  | nil => exact absurd among Call.not_among_nil
  | stop refused bad =>
    cases (Call.among_advice.mp among).resolve_right (Call.not_among_of_refused refused)
    simp
  | next refused good others ih =>
    rcases Call.among_cons.mp among with first | later
    · cases (Call.among_advice.mp first).resolve_right (Call.not_among_of_refused refused)
      simp
    · obtain ⟨mem, called⟩ := ih later
      exact ⟨List.mem_cons_of_mem _ mem, List.mem_cons_of_mem _ called⟩

/-- Calls in turn that fail do so with the error of one of them. -/
theorem InTurn.exists_bad (turns : InTurn verdict advices calls (.error error)) :
    ∃ advice seen proceeds returned, Call.advice advice seen proceeds returned ∈ calls ∧
      verdict advice returned = .error error := by
  -- The induction is on the calls, of which only the last can have failed.
  generalize failed : (Except.error error : Except ExecutionError Unit) = ended at turns
  induction turns with
  | nil => contradiction
  | stop refused bad =>
    cases failed
    exact ⟨_, _, _, _, List.mem_singleton.mpr rfl, bad⟩
  | next refused good others ih =>
    obtain ⟨advice, seen, proceeds, returned, called, bad⟩ := ih failed
    exact ⟨advice, seen, proceeds, returned, List.mem_cons_of_mem _ called, bad⟩

/-- A fatal error raised by calls in turn ends them. -/
theorem InTurn.ended_of_raised (judges : plan.Judges advices verdict)
    (turns : InTurn verdict advices calls ended) (raised : plan.Raised error calls) :
    ended = .error error := by
  -- The induction is on the calls; a value that is not allowed is a bad verdict.
  induction turns with
  | nil =>
    obtain ⟨call, among, _⟩ := raised
    exact absurd among Call.not_among_nil
  | stop refused bad =>
    obtain ⟨value, breach, rfl, breaches, rfl⟩ :=
      (Plan.raised_advice.mp raised).resolve_right (Plan.not_raised_of_refused refused)
    rw [judges _ List.mem_cons_self, breaches] at bad
    exact bad.symm
  | next refused good others ih =>
    rcases Plan.raised_cons.mp raised with first | later
    · obtain ⟨value, breach, rfl, breaches, rfl⟩ :=
        (Plan.raised_advice.mp first).resolve_right (Plan.not_raised_of_refused refused)
      rw [judges _ List.mem_cons_self, breaches] at good
      contradiction
    · exact ih (fun advice mem => judges advice (List.mem_cons_of_mem _ mem)) later

end Turns

namespace Plan

variable {plan : Plan β} {core : Core β} {calls : List (Call β)}
  {ended : Except ExecutionError Value}
  {error : ExecutionError}

/-- What has ended badly has ended with the error. -/
theorem ended_of_verdictOf (bad : verdictOf ended = .error error) : ended = .error error := by
  -- An error is its own verdict, and a value is never an error.
  cases ended with
  | error other => exact congrArg _ (Except.error.inj bad)
  | ok value => cases bad

/-- A fatal error raised in the innermost layer ends it. -/
theorem InnermostCalls.ended_of_raised (inside : plan.InnermostCalls core calls ended)
    (raised : plan.Raised error calls) : ended = .error error := by
  have observing : plan.Judges (plan.ofPhase .before) (observed plan.target.label) :=
    judges_observed (.inl rfl)
  -- Where the before advices have passed, they have raised nothing.
  have quiet {early : List (Call β)}
      (passed : InTurn (observed plan.target.label) (plan.ofPhase .before) early (.ok ())) :
      ¬plan.Raised error early := by
    intro raised
    cases passed.ended_of_raised observing raised
  cases inside with
  | barred barred =>
    cases barred.ended_of_raised observing raised
    rfl
  | returned passed follows =>
    rcases raised_cons.mp ((raised_append.mp raised).resolve_left (quiet passed)) with core | later
    · cases (raised_core.mp core).1
    · exact ended_of_verdictOf (follows.ended_of_raised (judges_substituted (by decide)) later)
  | handled passed mild watched follows =>
    rcases raised_cons.mp ((raised_append.mp raised).resolve_left (quiet passed)) with core | later
    · -- An error that is handled is not fatal.
      obtain ⟨same, fatal⟩ := raised_core.mp core
      cases same
      rw [mild] at fatal
      contradiction
    · exact ended_of_verdictOf (follows.ended_of_raised (judges_substituted (by decide)) later)
  | failed passed final =>
    obtain ⟨same, _⟩ :=
      raised_core.mp ((raised_append.mp raised).resolve_left (quiet passed))
    exact same ▸ rfl

/-- A fatal error raised in a layer ends it if the around advices pass it on. -/
theorem LayerCalls.ended_of_raised {level : Nat} (layer : plan.LayerCalls core level calls ended)
    (raised : plan.Raised error calls) (passed : PassedOn error calls) :
    ended = .error error := by
  -- The induction is on the layers from the innermost one outwards.
  induction layer with
  | innermost inside => exact inside.ended_of_raised raised
  | @around level advice seen proceeds returned ended outside present inside ending ih =>
    have phase := phase_of_mem_ofPhase (List.mem_of_getElem? present)
    -- Either way the joinpoint does not take what the advice returned.
    have failed : substituted plan advice returned = .error error := by
      rcases raised_advice.mp raised with ⟨value, breach, rfl, breaches, rfl⟩ | ⟨made, use, within⟩
      · rw [judges_substituted (by decide) advice (List.mem_of_getElem? present), breaches]
        rfl
      · -- The error is what proceeding ends with, and so what the advice returns.
        have gets := ih made use within fun advice seen proceeds returned among =>
          passed advice seen proceeds returned (.inside (List.mem_singleton.mpr rfl) use among)
        rw [passed advice seen proceeds returned (.here (List.mem_singleton.mpr rfl)) phase made use
          gets]
        rfl
    exact ended_of_verdictOf (ending.symm.trans failed)

/-- After advices are called behind all layers only. -/
theorem LayerCalls.phase_ne_after {level : Nat} (layer : plan.LayerCalls core level calls ended)
    {advice : Advice β} {seen : Invocation β} {proceeds : List (Proceeding β)}
    {returned : Except ExecutionError (Option Value)}
    (mem : Call.advice advice seen proceeds returned ∈ calls) : advice.phase ≠ .after := by
  -- The advices that an innermost layer calls are of the phases around the core.
  have inside {verdict phase turn} {verdictEnd : Except ExecutionError Unit}
      (turns : InTurn verdict (plan.ofPhase phase) turn verdictEnd)
      (mem : Call.advice advice seen proceeds returned ∈ turn) (other : phase ≠ .after) :
      advice.phase ≠ .after := by
    rwa [phase_of_mem_ofPhase (turns.mem_of_among (.here mem)).1]
  cases layer with
  | around outside present _ _ =>
    cases List.mem_singleton.mp mem
    rw [phase_of_mem_ofPhase (List.mem_of_getElem? present)]
    decide
  | innermost runs =>
    cases runs with
    | barred barred => exact inside barred mem (by decide)
    | returned passed follows =>
      simp only [List.mem_append, List.mem_cons, reduceCtorEq, false_or] at mem
      exact mem.elim (inside passed · (by decide)) (inside follows · (by decide))
    | handled passed mild watched follows =>
      simp only [List.mem_append, List.mem_cons, reduceCtorEq, false_or] at mem
      exact mem.elim (inside passed · (by decide)) (inside follows · (by decide))
    | failed passed final =>
      simp only [List.mem_append, List.mem_singleton, reduceCtorEq, or_false] at mem
      exact inside passed mem (by decide)

end Plan

/-- After-throw advices are spared among two lists of calls if they are among each. -/
theorem Spared.append {first second : List (Call β)} (early : Spared first)
    (late : Spared second) : Spared (first ++ second) := by
  -- Each call is among the first ones or among the others.
  intro advice seen proceeds returned among phase
  rcases Call.among_append.mp among with one | other
  · exact early advice seen proceeds returned one phase
  · exact late advice seen proceeds returned other phase

/-- The core tells no after-throw advice of anything. -/
theorem spared_core {core : Core β} {context : AdviceContext β}
    {ended : Except ExecutionError Value} :
    Spared [Call.core core context ended] := by
  -- The core is no advice.
  intro advice seen proceeds returned among
  cases Call.among_core.mp among

/-- Calls in turn of another phase are of no after-throw advices. -/
theorem InTurn.spared {verdict} {plan : Plan β} {phase : Phase} {calls : List (Call β)}
    {ended : Except ExecutionError Unit} (turns : InTurn verdict (plan.ofPhase phase) calls ended)
    (other : phase ≠ .afterThrow) : Spared calls := by
  -- All advices that were called are of one phase, and it is another.
  intro advice seen proceeds returned among same
  obtain ⟨mem, _⟩ := turns.mem_of_among among
  exact absurd ((Plan.phase_of_mem_ofPhase mem).symm.trans same) other

namespace Engine

variable {engine : Engine β τ} {before after : Invocation β × State β τ} {plan : Plan β}
  {core : Core β} {calls : List (Call β)} {ended : Except ExecutionError Value}

/-- Substitutes are all told of the same error. -/
theorem seen_of_recordSubstitutes {advices : List (Advice β)}
    (gives : (engine.recordSubstitutes plan advices).Gives before ended calls after)
    {advice : Advice β} {seen : Invocation β} {proceeds : List (Proceeding β)}
    {returned : Except ExecutionError (Option Value)}
    (mem : Call.advice advice seen proceeds returned ∈ calls) :
    seen.error = before.1.error := by
  -- The induction is on the advices that are still to be called.
  induction advices generalizing before calls with
  | nil =>
    rw [recordSubstitutes, Noted.gives_liftM_bind] at gives
    obtain ⟨value, between, _, goes⟩ := gives
    obtain ⟨_, rfl, _⟩ := Noted.gives_pure.mp goes
    cases mem
  | cons first rest ih =>
    rw [recordSubstitutes, Noted.gives_bind] at gives
    obtain ⟨result, _, between, late, called, goes, rfl⟩ := gives
    have kept := (kept_of_recordAdvice called).error_eq
    obtain ⟨uses, rfl, _⟩ := gives_recordAdvice_nowhere called
    -- The first call sees the invocation as it is, and the others come after it.
    rcases List.mem_cons.mp mem with one | other
    · cases one
      rfl
    · rcases result with error | _ | value
      · obtain ⟨_, rfl, _⟩ := Noted.gives_pure.mp goes
        cases other
      · rw [ih goes other, kept]
      · obtain ⟨verdict, changed, taken, ends⟩ := Noted.gives_liftM_bind.mp goes
        have same := (kept_of_substitute taken).error_eq
        cases verdict with
        | error error =>
          obtain ⟨_, rfl, _⟩ := Noted.gives_pure.mp ends
          cases other
        | ok => rw [ih ends other, same, kept]

/-- In the innermost layer after-throw advices are told only of errors that are not fatal. -/
theorem spared_of_recordInnermost
    (gives : (engine.recordInnermost plan core).Gives before ended calls after) :
    Spared calls := by
  -- Only handlers of an error are called after a throw, and the error was mild.
  have observers {verdict early between}
      (observes : (engine.recordObservers plan.target.label (plan.ofPhase .before)).Gives before
        verdict early between) : Spared early :=
    (inTurn_of_recordObservers observes).spared (by decide)
  cases innermostRuns_of_recordInnermost gives with
  | barred observes => exact observers observes
  | returned observes _ _ follows =>
    have others := (inTurn_of_recordSubstitutes follows).spared (by decide)
    exact (observers observes).append (spared_core.append others)
  | handled observes mild watched told _ follows =>
    have handlers : Spared _ := fun advice seen proceeds returned among _ => by
      obtain ⟨_, mem⟩ := (inTurn_of_recordSubstitutes follows).mem_of_among among
      exact ⟨_, (seen_of_recordSubstitutes follows mem).trans told, mild⟩
    exact (observers observes).append (spared_core.append handlers)
  | failed observes final => exact (observers observes).append spared_core

/-- In a layer after-throw advices are told only of errors that are not fatal. -/
theorem spared_of_recordLayer {level : Nat} {inner : List (Advice β)}
    (around : ∀ advice ∈ inner, advice.phase = .around)
    (gives : (engine.recordLayer plan core level inner).Gives before ended calls after) :
    Spared calls := by
  -- The induction is on the around advices inside.
  induction inner generalizing level before after ended calls with
  | nil =>
    obtain ⟨start, finish, runs⟩ := innermost_of_recordLayer gives
    exact spared_of_recordInnermost runs
  | cons outer inner ih =>
    obtain ⟨found, uses, result, rfl, inside, _⟩ := around_of_recordLayer gives
    obtain ⟨phase, others⟩ := List.forall_mem_cons.mp around
    intro advice seen proceeds returned among handling
    rcases Call.among_advice.mp among with same | ⟨made, use, within⟩
    · cases same
      rw [phase] at handling
      contradiction
    · obtain ⟨start, finish, runs⟩ := inside made use
      exact ih others runs advice seen proceeds returned within handling

/-- Fatal errors escalate. -/
theorem escalates_of_recordPhases
    (gives : (engine.recordPhases plan core).Gives before ended calls after) :
    plan.Escalates calls ended := by
  obtain ⟨layers, result, late, verdict, between, rfl, runs, observes, replaced, stands⟩ :=
    phases_of_recordPhases gives
  have outermost := layerCalls_of_recordLayer rfl (Nat.zero_le _) runs
  have observing : plan.Judges (plan.ofPhase .after) (observed plan.target.label) :=
    Plan.judges_observed (.inr rfl)
  constructor
  case spared =>
    have around : ∀ advice ∈ (plan.ofPhase .around).reverse, advice.phase = .around :=
      fun advice mem => Plan.phase_of_mem_ofPhase (List.mem_reverse.mp mem)
    exact (spared_of_recordLayer around runs).append (observes.spared (by decide))
  case last =>
    intro error advice seen proceeds returned mem phase raises
    rcases List.mem_append.mp mem with layered | observer
    · exact absurd phase (outermost.phase_ne_after layered)
    · exact replaced error (observes.ended_of_raised observing ⟨_, .here observer, raises⟩)
  case reaches =>
    intro error raised passed unreplaced
    rcases Plan.raised_append.mp raised with inside | outside
    · -- The error ends the layers, and the after advices leave it.
      have failed := outermost.ended_of_raised inside fun advice seen proceeds returned among =>
        passed advice seen proceeds returned (Call.among_append.mpr (.inl among))
      cases verdict with
      | ok => exact stands rfl error failed
      | error other =>
        obtain ⟨advice, seen, proceeds, returned, mem, bad⟩ := observes.exists_bad
        have phase := Plan.phase_of_mem_ofPhase (observes.mem_of_among (.here mem)).1
        obtain rfl : other = error :=
          unreplaced advice seen proceeds returned other (List.mem_append_right _ mem) phase bad
        exact replaced other rfl
    · exact replaced error (observes.ended_of_raised observing outside)

/-- An execution runs the phases of its plan once the plan is linked, on an invocation that nothing
has happened to yet; one whose plan does not link ends with the error and calls nothing. -/
theorem begun_of_recordExecute {id : PlanId} {natural : Option (Symbol β)}
    {receiver : Option InstanceId} {args : List Value} {start finish : State β τ}
    (recorded : (engine.recordExecute id natural receiver args).run start =
      some ((ended, calls), finish)) :
    (∃ error, (engine.link id natural).run start = some (.error error, finish) ∧
        ended = .error error ∧ calls = []) ∨
      ∃ core linked state after, (engine.link id natural).run start = some (.ok core, linked) ∧
        linked.world.plan? id = some state ∧
        (engine.recordPhases state.plan core).Gives
          (.begin state.plan.target state.plan.annotations receiver args, linked) ended calls
          after := by
  obtain ⟨outcome, linked, links, goes⟩ := run_bind_eq_some.mp recorded
  -- Linking makes no calls, whether it succeeds or not.
  cases outcome with
  | error error =>
    obtain ⟨same, rfl⟩ := run_pure_eq_some.mp goes
    cases same
    exact .inl ⟨error, links, rfl, rfl⟩
  | ok core =>
    obtain ⟨state, _, finds, runs⟩ := run_bind_eq_some.mp goes
    obtain ⟨found, rfl⟩ := run_find_eq_some.mp finds
    obtain ⟨⟨_, invocation⟩, _, gives, ends⟩ := run_bind_eq_some.mp runs
    obtain ⟨rfl, rfl⟩ := run_pure_eq_some.mp ends
    exact .inr ⟨core, _, state, (invocation, _), links, found, gives⟩

/-- An execution runs the phases of its plan once the plan is linked; one whose plan does not link
ends with the error and calls nothing. -/
theorem executed_of_recordExecute {id : PlanId} {natural : Option (Symbol β)}
    {receiver : Option InstanceId} {args : List Value} {start finish : State β τ}
    (recorded : (engine.recordExecute id natural receiver args).run start =
      some ((ended, calls), finish)) :
    (∃ error, (engine.link id natural).run start = some (.error error, finish) ∧
        ended = .error error ∧ calls = []) ∨
      ∃ core linked state before after, (engine.link id natural).run start =
          some (.ok core, linked) ∧ linked.world.plan? id = some state ∧
        (engine.recordPhases state.plan core).Gives before ended calls after := by
  -- Where the invocation begins is left out.
  refine (begun_of_recordExecute recorded).imp_right ?_
  intro ⟨core, linked, state, after, links, found, runs⟩
  exact ⟨core, linked, state, _, after, links, found, runs⟩

/-- Whatever a host does, an execution whose plan does not link returns the error and calls nothing,
and the fatal errors of one whose plan links escalate. -/
theorem execute_escalates (engine : Engine β τ) {id : PlanId} {natural : Option (Symbol β)}
    {receiver : Option InstanceId} {args : List Value} {start finish : State β τ}
    {result : Except ExecutionError Value}
    (ran : (engine.execute id natural receiver args).run start = some (result, finish)) :
    ∃ calls, (engine.recordExecute id natural receiver args).run start =
        some ((result, calls), finish) ∧
      ((∃ error linked, (engine.link id natural).run start = some (.error error, linked) ∧
          result = .error error ∧ calls = []) ∨
        ∃ core linked state, (engine.link id natural).run start = some (.ok core, linked) ∧
          linked.world.plan? id = some state ∧ state.plan.Escalates calls result) := by
  -- The run is a recorded one without its notes.
  rw [← erase_recordExecute] at ran
  obtain ⟨⟨ended, calls⟩, recorded, rfl⟩ := run_map_eq_some.mp ran
  refine ⟨calls, recorded, (executed_of_recordExecute recorded).imp ?_ ?_⟩
  · rintro ⟨error, links, rfl, rfl⟩
    exact ⟨error, finish, links, rfl, rfl⟩
  · rintro ⟨core, linked, state, _, _, links, found, runs⟩
    exact ⟨core, linked, state, links, found, escalates_of_recordPhases runs⟩

/-- What an advice returns after proceeding: something of its own, or else what it got. -/
abbrev Retort : Type := Option (Except ExecutionError (Option Value))

/-- A host whose advices all proceed. -/
def headstrongHost : Host Retort Unit where
  initializer _ _ _ := .done (.ok ())
  method _ _ _ := .done (.ok .null)
  getter _ _ := .done (.ok .null)
  setter _ _ _ := .done (.ok ())
  stub _ _ _ := .done (.ok ())
  compile _ context := .done (.ok none, context)
  advice retort invocation :=
    .ask (.proceed invocation.context) fun (ended, left) =>
      .done (retort.getD (ended.map some), left.context)

/-- A plan for a method with a before advice that returns a value, and others around and after. -/
def meddledPlan (around after : Retort) : Plan Retort where
  target :=
    let root : Target := .root ⟨⟨0⟩, "A", "A"⟩ (.ofClass ⟨0⟩)
    .method root.owner (.ofMethod ⟨0⟩ "m") "m" root root
  joinpoint := .call
  annotations := []
  advices :=
    let advice (phase : Phase) (retort : Retort) : Advice Retort :=
      ⟨"meddle", ⟨phase, .of .method [] "*"⟩, "aspect", ⟨.lowest, 0, .lowest, 0⟩, retort⟩
    [advice .before (some (.ok (some .null))), advice .around around, advice .after after]

/-- A state with the plan. -/
def meddledState (around after : Retort) : State Retort Unit :=
  ⟨{ World.ofConfig .standard with plans := #[.fresh (meddledPlan around after)] }, ()⟩

/-- What is wrong with the value of the before advice. -/
def meddledError : ExecutionError :=
  .advice (.unexpectedReturn .before "before(method *)=>meddle" "method A.m")

/-- The error of the before advice is the end if the advices around and after leave it. -/
theorem execute_escalates_meddled :
    let plan := meddledPlan none (some (.ok none))
    ∃ calls finish,
      ((headstrongHost.engine 0).recordExecute ⟨0⟩ (some (.method none)) (some ⟨0⟩) []).run
          (meddledState none (some (.ok none))) = some ((.error meddledError, calls), finish) ∧
        plan.Escalates calls (.error meddledError) ∧ plan.Raised meddledError calls ∧
          PassedOn meddledError calls ∧ plan.Unreplaced meddledError calls := by
  -- The run is computed, and the theorem tells what its errors lead to.
  have ran : ((headstrongHost.engine 0).execute ⟨0⟩ (some (.method none)) (some ⟨0⟩) []).run
      (meddledState none (some (.ok none))) = some (.error meddledError, _) := rfl
  obtain ⟨calls, recorded, outcome⟩ := execute_escalates (headstrongHost.engine 0) ran
  rcases outcome with ⟨_, _, links, _⟩ | ⟨core, linked, state, links, found, escalates⟩
  · cases links
  cases links
  cases found
  cases recorded
  refine ⟨_, _, rfl, escalates, ?_, ?_, ?_⟩
  · exact ⟨_, .inside List.mem_cons_self List.mem_cons_self (.here List.mem_cons_self), _, _, rfl,
      rfl, rfl⟩
  · intro advice seen proceeds returned among phase made use got
    -- Of all calls only the first is of an around advice, which returns what it got.
    rcases Call.among_cons.mp among with first | later
    · rcases Call.among_advice.mp first with same | ⟨made, use, within⟩
      · cases same
        rfl
      · cases List.mem_singleton.mp use
        rcases Call.among_advice.mp within with same | ⟨made, use, within⟩
        · cases same
          contradiction
        · cases List.mem_singleton.mp use
          exact absurd within Call.not_among_nil
    · rcases Call.among_advice.mp later with same | ⟨made, use, within⟩
      · cases same
        contradiction
      · cases List.mem_singleton.mp use
        exact absurd within Call.not_among_nil
  · intro advice seen proceeds returned other mem phase bad
    rcases List.mem_cons.mp mem with same | later
    · cases same
      contradiction
    · cases List.mem_singleton.mp later
      contradiction

/-- The error of the before advice is lost if the around advice returns a value after it, and if the
after advice fails behind it. -/
theorem breach_not_returned :
    let execute := (headstrongHost.engine 0).execute ⟨0⟩ (some (.method none)) (some ⟨0⟩) []
    let record := (headstrongHost.engine 0).recordExecute ⟨0⟩ (some (.method none)) (some ⟨0⟩) []
    let recovering : Retort := some (.ok (some (.token 2)))
    let quiet : Retort := some (.ok none)
    let late := ExecutionError.thrown ⟨"late", none⟩
    meddledError.isFatal = true ∧
      (∃ calls finish,
        execute.run (meddledState recovering quiet) = some (.ok (.token 2), finish) ∧
        record.run (meddledState recovering quiet) = some ((.ok (.token 2), calls), finish) ∧
        (meddledPlan recovering quiet).Raised meddledError calls) ∧
      ∃ calls finish,
        execute.run (meddledState none (some (.error late))) = some (.error late, finish) ∧
        record.run (meddledState none (some (.error late))) =
          some ((.error late, calls), finish) ∧
        (meddledPlan none (some (.error late))).Raised meddledError calls := by
  -- The before advice is called while the around advice proceeds.
  refine ⟨rfl, ⟨_, _, rfl, rfl, ?_⟩, ⟨_, _, rfl, rfl, ?_⟩⟩ <;>
  · exact ⟨_, .inside List.mem_cons_self List.mem_cons_self (.here List.mem_cons_self), _, _, rfl,
      rfl, rfl⟩

end Engine

end AspectWeaving
