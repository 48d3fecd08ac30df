import AspectWeaving.Proofs.Engine.Confinement
import AspectWeaving.Proofs.Engine.Happening

/-! The layers of an invocation: what each layer calls, how often and in which order, whatever the
advices and the core do. -/

namespace AspectWeaving

variable {β τ : Type}

/-- What becomes of a sequence of advices that must not return a value after one of them. -/
def observed (label : String) (advice : Advice β) :
    Except ExecutionError (Option Value) → Except ExecutionError Unit
  | .error error => .error error
  | .ok (some _) => .error (.advice (.unexpectedReturn advice.phase advice.key label))
  | .ok none => .ok ()

/-- What becomes of a sequence of advices that may replace the value after one of them. -/
def substituted (plan : Plan β) (advice : Advice β) :
    Except ExecutionError (Option Value) → Except ExecutionError Unit
  | .error error => .error error
  | .ok none => .ok ()
  | .ok (some value) =>
    (plan.joinpoint.checkValue advice.phase advice.key plan.target.label value).mapError .advice

/-- Proceeding where no layer can be reached calls nothing. -/
def Refused (made : Proceeding β) : Prop :=
  made.1 = [] ∧ ∃ label, made.2 = .error (.advice (.joinpointUnavailable label))

/-- Calls of advices in their order, none of which can proceed, up to the first with an error. -/
inductive InTurn (verdict : Advice β → Except ExecutionError (Option Value) →
    Except ExecutionError Unit) :
    List (Advice β) → List (Call β) → Except ExecutionError Unit → Prop where
  | nil : InTurn verdict [] [] (.ok ())
  | stop {advice rest seen proceeds returned error}
      (refused : ∀ made ∈ proceeds, Refused made)
      (bad : verdict advice returned = .error error) :
      InTurn verdict (advice :: rest) [.advice advice seen proceeds returned] (.error error)
  | next {advice rest seen proceeds returned calls ended}
      (refused : ∀ made ∈ proceeds, Refused made)
      (good : verdict advice returned = .ok ()) (others : InTurn verdict rest calls ended) :
      InTurn verdict (advice :: rest) (.advice advice seen proceeds returned :: calls) ended

/-- Whether something ended well, or else the error. -/
def verdictOf {α : Type} (ended : Except ExecutionError α) : Except ExecutionError Unit :=
  ended.map fun _ => ()

namespace Plan

/-- The number of layers around the innermost one. -/
def depth (plan : Plan β) : Nat := (plan.ofPhase .around).length

/-- What the layers outside have left of the around advices begins with the one of the layer. -/
theorem around_of_reach {plan : Plan β} {level : Nat} {advice : Advice β} {inner : List (Advice β)}
    (reach : advice :: inner = (plan.ofPhase .around).reverse.drop level) :
    level < plan.depth ∧ (plan.ofPhase .around)[plan.depth - 1 - level]? = some advice ∧
      inner = (plan.ofPhase .around).reverse.drop (level + 1) := by
  -- The advices that are left are the reversed ones without those outside.
  have outside : level < plan.depth := by
    have some := congrArg List.length reach
    simp only [List.length_cons, List.length_drop, List.length_reverse] at some
    unfold Plan.depth
    omega
  refine ⟨outside, ?_, ?_⟩
  · have head := congrArg List.head? reach
    rw [List.head?_drop, List.getElem?_reverse outside] at head
    exact head.symm
  · have tail := congrArg List.tail reach
    rwa [List.tail_drop] at tail

/-- The calls of the innermost layer: the before advices, the core once, and then those of the
after-return advices or of the after-throw advices that are told how it ended. -/
inductive InnermostCalls (plan : Plan β) (core : Core β) :
    List (Call β) → Except ExecutionError Value → Prop where
  | barred {before error}
      (barred : InTurn (observed plan.target.label) (plan.ofPhase .before) before
        (.error error)) :
      InnermostCalls plan core before (.error error)
  | returned {before context value follow ended}
      (passed : InTurn (observed plan.target.label) (plan.ofPhase .before) before (.ok ()))
      (follows : InTurn (substituted plan) (plan.ofPhase .afterReturn) follow
        (verdictOf ended)) :
      InnermostCalls plan core (before ++ .core core context (.ok value) :: follow) ended
  | handled {before context error follow ended}
      (passed : InTurn (observed plan.target.label) (plan.ofPhase .before) before (.ok ()))
      (mild : error.isFatal = false) (watched : plan.ofPhase .afterThrow ≠ [])
      (follows : InTurn (substituted plan) (plan.ofPhase .afterThrow) follow
        (verdictOf ended)) :
      InnermostCalls plan core (before ++ .core core context (.error error) :: follow) ended
  | failed {before context error}
      (passed : InTurn (observed plan.target.label) (plan.ofPhase .before) before (.ok ()))
      (final : error.isFatal = true ∨ plan.ofPhase .afterThrow = []) :
      InnermostCalls plan core (before ++ [.core core context (.error error)]) (.error error)

/-- The calls of one run of a layer, counted from the outermost. Each layer but the innermost calls
its around advice once, and each time the advice proceeds is one run of the next layer. -/
inductive LayerCalls (plan : Plan β) (core : Core β) :
    Nat → List (Call β) → Except ExecutionError Value → Prop where
  | around {level advice seen proceeds returned ended} (outside : level < plan.depth)
      (present : (plan.ofPhase .around)[plan.depth - 1 - level]? = some advice)
      (inside : ∀ made ∈ proceeds, LayerCalls plan core (level + 1) made.1 made.2)
      (ending : substituted plan advice returned = verdictOf ended) :
      LayerCalls plan core level [.advice advice seen proceeds returned] ended
  | innermost {calls ended} (inside : InnermostCalls plan core calls ended) :
      LayerCalls plan core plan.depth calls ended

/-- The calls of an invocation: one run of the outermost layer and then the after advices, an error
of which is the end of the invocation. -/
def InvocationCalls (plan : Plan β) (core : Core β) (calls : List (Call β))
    (ended : Except ExecutionError Value) : Prop :=
  ∃ layers result after verdict, calls = layers ++ after ∧
    plan.LayerCalls core 0 layers result ∧
    InTurn (observed plan.target.label) (plan.ofPhase .after) after verdict ∧
    ∀ error, verdict = .error error → ended = .error error

end Plan

namespace Engine

/-- What a use of proceeding is, by the layer in the joinpoint slot: a run of that layer, or nothing
if the layer is out of reach. -/
def Makes (reachable : Nat → Option (Recorded β τ (Except ExecutionError Value)))
    (slot : Option Nat) (made : Proceeding β) : Prop :=
  match slot.bind reachable with
  | none => Refused made
  | some layer => ∃ before after, layer.Gives before made.2 made.1 after

variable {engine : Engine β τ} {before after : Invocation β × State β τ}
  {reachable : Nat → Option (Recorded β τ (Except ExecutionError Value))}

/-- Proceeding with a layer in reach is a run of the layer, after which the slot is put back. -/
theorem inner_of_recordProceed {layer : Recorded β τ (Except ExecutionError Value)}
    {result : Except ExecutionError Value} {calls : List (Call β)}
    (reached : before.1.joinpoint.bind reachable = some layer)
    (gives : (recordProceed reachable).Gives before result calls after) :
    ∃ between, layer.Gives before result calls between ∧
      after = ({ between.1 with joinpoint := before.1.joinpoint }, between.2) := by
  -- Proceeding runs the layer and puts the joinpoint back.
  rw [recordProceed, Noted.gives_get_bind] at gives
  simp only [reached] at gives
  obtain ⟨_, _, between, _, inner, ends, rfl⟩ := Noted.gives_bind.mp gives
  rw [setJoinpoint, Noted.gives_modify_bind] at ends
  obtain ⟨rfl, rfl, rfl⟩ := Noted.gives_pure.mp ends
  exact ⟨between, by simpa using inner, rfl⟩

/-- Proceeding is what the joinpoint slot says, and leaves the slot as it is. -/
theorem makes_of_gives {result : Except ExecutionError Value} {calls : List (Call β)}
    (gives : (recordProceed reachable).Gives before result calls after) :
    after.1.joinpoint = before.1.joinpoint ∧
      Makes reachable before.1.joinpoint (calls, result) := by
  unfold Makes
  -- The slot names a layer that is within reach, or none.
  cases reached : before.1.joinpoint.bind reachable with
  | none =>
    rw [recordProceed, Noted.gives_get_bind] at gives
    simp only [reached, Noted.gives_pure] at gives
    obtain ⟨rfl, rfl, rfl⟩ := gives
    exact ⟨rfl, rfl, _, rfl⟩
  | some layer =>
    obtain ⟨between, inner, rfl⟩ := inner_of_recordProceed reached gives
    exact ⟨rfl, before, between, inner⟩

/-- Each use of proceeding that an advice asks for is what the joinpoint slot says. -/
theorem makes_of_serveRecorded {request : AdviceRequest β τ} {answer : request.Answer}
    {proceeds : List (Proceeding β)}
    (gives : (engine.serveRecorded reachable request).Gives before answer proceeds after) :
    after.1.joinpoint = before.1.joinpoint ∧
      ∀ made ∈ proceeds, Makes reachable before.1.joinpoint made := by
  cases request with
  | plain request =>
    -- Whatever else a body asks for leaves the invocation alone.
    obtain ⟨rfl, served⟩ := Noted.gives_liftM.mp gives
    obtain ⟨_, _, same⟩ := Option.bind_eq_some_iff.mp served
    obtain ⟨invocation, state⟩ := after
    cases same
    simp
  | proceed context =>
    -- Proceeding sets the context, which does not hold the slot, and notes one use.
    rw [serveRecorded, modifyContext, Noted.gives_modify_bind, Noted.gives_liftM_bind] at gives
    obtain ⟨⟨result, calls⟩, between, ran, noted⟩ := gives
    obtain ⟨_, ends, rfl⟩ := Noted.gives_tell_bind.mp noted
    rw [Noted.gives_get_bind] at ends
    obtain ⟨_, rfl, rfl⟩ := Noted.gives_pure.mp ends
    obtain ⟨kept, makes⟩ := makes_of_gives ran
    refine ⟨kept, fun made mem => ?_⟩
    obtain rfl : made = (calls, result) := by simpa using mem
    exact makes

/-- Each use of proceeding during a program is what the joinpoint slot says. -/
theorem makes_of_run {α : Type} {program : AdviceAction β τ α} {result : α}
    {proceeds : List (Proceeding β)}
    (gives : Noted.Gives (program.run (engine.serveRecorded reachable)) before result proceeds
      after) :
    ∀ made ∈ proceeds, Makes reachable before.1.joinpoint made := by
  -- The induction is on the program; no request moves the slot.
  induction program generalizing before proceeds with
  | done given =>
    obtain ⟨_, rfl, _⟩ := Noted.gives_pure.mp gives
    simp
  | ask asked next ih =>
    obtain ⟨answer, early, between, late, served, goes, rfl⟩ := Noted.gives_bind.mp gives
    obtain ⟨kept, makes⟩ := makes_of_serveRecorded served
    intro made mem
    -- A use is one of the request answered now or one of those to come.
    rcases List.mem_append.mp mem with first | later
    · exact makes made first
    · rw [← kept]
      exact ih answer goes made later

/-- Recording an advice notes one call, with each use of proceeding during it. -/
theorem gives_recordAdvice {advice : Advice β}
    {returned : Except ExecutionError (Option Value)} {calls : List (Call β)}
    (gives : (engine.recordAdvice advice reachable).Gives before returned calls after) :
    ∃ proceeds, calls = [.advice advice before.1 proceeds returned] ∧
      ∀ made ∈ proceeds, Makes reachable before.1.joinpoint made := by
  -- The note is taken after the program has run, with the invocation from before.
  rw [recordAdvice, Noted.gives_get_bind, Noted.gives_liftM_bind] at gives
  obtain ⟨⟨⟨answer, context⟩, proceeds⟩, between, ran, noted⟩ := gives
  obtain ⟨_, ends, rfl⟩ := Noted.gives_tell_bind.mp (Noted.gives_modify_bind.mp noted)
  obtain ⟨rfl, rfl, _⟩ := Noted.gives_pure.mp ends
  exact ⟨proceeds, rfl, makes_of_run ran⟩

/-- Recording an advice with no layer within reach notes one call that proceeds nowhere. -/
theorem gives_recordAdvice_nowhere {advice : Advice β}
    {returned : Except ExecutionError (Option Value)} {calls : List (Call β)}
    (gives : (engine.recordAdvice advice recordedNowhere).Gives before returned calls after) :
    ∃ proceeds, calls = [.advice advice before.1 proceeds returned] ∧
      ∀ made ∈ proceeds, Refused made := by
  obtain ⟨proceeds, same, makes⟩ := gives_recordAdvice gives
  refine ⟨proceeds, same, fun made mem => ?_⟩
  have refused := makes made mem
  -- Whatever the slot holds, it leads to no layer.
  unfold Makes at refused
  cases slot : before.1.joinpoint <;> simpa [slot, recordedNowhere] using refused

/-- Observers are called in turn. -/
theorem inTurn_of_recordObservers {label : String} {advices : List (Advice β)}
    {ended : Except ExecutionError Unit} {calls : List (Call β)}
    (gives : (engine.recordObservers label advices).Gives before ended calls after) :
    InTurn (observed label) advices calls ended := by
  -- The induction is on the advices that are still to be called.
  induction advices generalizing before calls with
  | nil =>
    obtain ⟨rfl, rfl, _⟩ := Noted.gives_pure.mp gives
    exact .nil
  | cons advice rest ih =>
    rw [recordObservers, Noted.gives_bind] at gives
    obtain ⟨returned, _, between, late, called, goes, rfl⟩ := gives
    obtain ⟨proceeds, rfl, refused⟩ := gives_recordAdvice_nowhere called
    -- An error and a value both stop the sequence; only nothing lets it go on.
    rcases returned with error | _ | value
    · obtain ⟨rfl, rfl, _⟩ := Noted.gives_pure.mp goes
      exact .stop refused rfl
    · exact .next refused rfl (ih goes)
    · obtain ⟨rfl, rfl, _⟩ := Noted.gives_pure.mp goes
      exact .stop refused rfl

/-- A value is taken exactly if the joinpoint lets the advice replace its own. -/
theorem substitute_eq {plan : Plan β} {advice : Advice β} {value : Value}
    {verdict : Except ExecutionError Unit}
    (ran : ((substitute plan advice value).run before.1).run before.2 =
      some ((verdict, after.1), after.2)) :
    verdict = substituted plan advice (.ok (some value)) := by
  obtain ⟨invocation, state⟩ := after
  -- The joinpoint decides, and both sides ask it the same.
  cases judged : plan.joinpoint.checkValue advice.phase advice.key plan.target.label value <;>
  · simp only [substitute, substituted, judged] at ran ⊢
    cases ran
    rfl

/-- Substitutes are called in turn. -/
theorem inTurn_of_recordSubstitutes {plan : Plan β} {advices : List (Advice β)}
    {ended : Except ExecutionError Value} {calls : List (Call β)}
    (gives : (engine.recordSubstitutes plan advices).Gives before ended calls after) :
    InTurn (substituted plan) advices calls (verdictOf ended) := by
  -- The induction is on the advices that are still to be called.
  induction advices generalizing before calls with
  | nil =>
    -- With no advice left the value stands as it is.
    rw [recordSubstitutes, Noted.gives_liftM_bind] at gives
    obtain ⟨value, between, _, goes⟩ := gives
    obtain ⟨rfl, rfl, _⟩ := Noted.gives_pure.mp goes
    exact .nil
  | cons advice rest ih =>
    rw [recordSubstitutes, Noted.gives_bind] at gives
    obtain ⟨returned, _, between, late, called, goes, rfl⟩ := gives
    obtain ⟨proceeds, rfl, refused⟩ := gives_recordAdvice_nowhere called
    -- An error stops the sequence, and so does a value that is refused.
    rcases returned with error | _ | value
    · obtain ⟨rfl, rfl, _⟩ := Noted.gives_pure.mp goes
      exact .stop refused rfl
    · exact .next refused rfl (ih goes)
    · obtain ⟨verdict, changed, taken, ends⟩ := Noted.gives_liftM_bind.mp goes
      have judged := substitute_eq taken
      cases verdict with
      | error error =>
        obtain ⟨rfl, rfl, _⟩ := Noted.gives_pure.mp ends
        exact .stop refused judged.symm
      | ok => exact .next refused judged.symm (ih ends)

/-- The runs that the innermost layer is made of: those of the before advices, the core, and those
of the advices that follow how it ended. -/
inductive InnermostRuns (engine : Engine β τ) (plan : Plan β) (core : Core β)
    (before : Invocation β × State β τ) :
    List (Call β) → Except ExecutionError Value → Prop where
  | barred {early error between}
      (observes : (engine.recordObservers plan.target.label (plan.ofPhase .before)).Gives before
        (.error error) early between) :
      InnermostRuns engine plan core before early (.error error)
  | returned {early between context value start follow ended finish}
      (observes : (engine.recordObservers plan.target.label (plan.ofPhase .before)).Gives before
        (.ok ()) early between)
      (told : start.1.error = before.1.error) (valued : start.1.context.value = value)
      (follows : (engine.recordSubstitutes plan (plan.ofPhase .afterReturn)).Gives start ended
        follow finish) :
      InnermostRuns engine plan core before (early ++ .core core context (.ok value) :: follow)
        ended
  | handled {early between context error start follow ended finish}
      (observes : (engine.recordObservers plan.target.label (plan.ofPhase .before)).Gives before
        (.ok ()) early between)
      (mild : error.isFatal = false) (watched : plan.ofPhase .afterThrow ≠ [])
      (told : start.1.error = some error) (valued : start.1.context.value = .null)
      (follows : (engine.recordSubstitutes plan (plan.ofPhase .afterThrow)).Gives start ended
        follow finish) :
      InnermostRuns engine plan core before (early ++ .core core context (.error error) :: follow)
        ended
  | failed {early between context error}
      (observes : (engine.recordObservers plan.target.label (plan.ofPhase .before)).Gives before
        (.ok ()) early between)
      (final : error.isFatal = true ∨ plan.ofPhase .afterThrow = []) :
      InnermostRuns engine plan core before (early ++ [.core core context (.error error)])
        (.error error)

/-- The innermost layer is made of its runs. -/
theorem innermostRuns_of_recordInnermost {plan : Plan β} {core : Core β}
    {ended : Except ExecutionError Value} {calls : List (Call β)}
    (gives : (engine.recordInnermost plan core).Gives before ended calls after) :
    InnermostRuns engine plan core before calls ended := by
  rw [recordInnermost, Noted.gives_bind] at gives
  obtain ⟨verdict, early, between, late, observes, goes, rfl⟩ := gives
  -- A before advice that fails bars the core.
  cases verdict with
  | error error =>
    obtain ⟨rfl, rfl, _⟩ := Noted.gives_pure.mp goes
    simpa using InnermostRuns.barred observes
  | ok =>
    rw [Noted.gives_get_bind, Noted.gives_bind] at goes
    obtain ⟨outcome, _, cored, follow, runs, follows, rfl⟩ := goes
    -- The core is called once, and leaves the invocation alone.
    rw [recordCore, Noted.gives_liftM_bind] at runs
    obtain ⟨_, finished, lifted, noted⟩ := runs
    obtain ⟨_, ends, rfl⟩ := Noted.gives_tell_bind.mp noted
    obtain ⟨rfl, rfl, rfl⟩ := Noted.gives_pure.mp ends
    have told : cored.1.error = before.1.error := by
      obtain ⟨_, _, same⟩ := Option.bind_eq_some_iff.mp lifted
      have same : between.1 = cored.1 := congrArg (fun ended => ended.1.2) (Option.some.inj same)
      rw [← same, (kept_of_recordObservers observes).error_eq]
    cases outcome with
    | ok value =>
      -- Setting the value is no call, so that only those of the after-return advices follow.
      dsimp only [setValue, modifyContext] at follows
      rw [Noted.gives_modify_bind] at follows
      refine InnermostRuns.returned observes ?_ ?_ follows
      exacts [told, rfl]
    | error error =>
      dsimp only at follows
      -- The error is fatal or unwatched, or else it is handled.
      split at follows
      · next final =>
        obtain ⟨rfl, rfl, _⟩ := Noted.gives_pure.mp follows
        exact .failed observes (by simpa using final)
      · next handled =>
        rw [recordHandlers, Noted.gives_modify_bind, setValue, modifyContext,
          Noted.gives_modify_bind, Noted.gives_bind] at follows
        obtain ⟨_, turn, _, _, handles, cleared, rfl⟩ := follows
        rw [Noted.gives_modify_bind, Noted.gives_pure] at cleared
        obtain ⟨rfl, rfl, _⟩ := cleared
        -- The test of the code says what the rule asks for.
        simp only [Bool.or_eq_true, List.isEmpty_iff, not_or, Bool.not_eq_true] at handled
        simpa using InnermostRuns.handled observes handled.1 handled.2 rfl rfl handles

/-- The innermost layer calls what it must. -/
theorem innermostCalls_of_recordInnermost {plan : Plan β} {core : Core β}
    {ended : Except ExecutionError Value} {calls : List (Call β)}
    (gives : (engine.recordInnermost plan core).Gives before ended calls after) :
    plan.InnermostCalls core calls ended := by
  -- Each way in which the innermost layer can run gives its calls.
  cases innermostRuns_of_recordInnermost gives with
  | barred observes => exact .barred (inTurn_of_recordObservers observes)
  | returned observes _ _ follows =>
    exact .returned (inTurn_of_recordObservers observes) (inTurn_of_recordSubstitutes follows)
  | handled observes mild watched _ _ follows =>
    exact .handled (inTurn_of_recordObservers observes) mild watched
      (inTurn_of_recordSubstitutes follows)
  | failed observes final => exact .failed (inTurn_of_recordObservers observes) final

/-- With no around advice left a layer is the innermost one. -/
theorem innermost_of_recordLayer {plan : Plan β} {core : Core β} {level : Nat}
    {ended : Except ExecutionError Value} {calls : List (Call β)}
    (gives : (engine.recordLayer plan core level []).Gives before ended calls after) :
    ∃ start finish, (engine.recordInnermost plan core).Gives start ended calls finish := by
  -- The slot is emptied for the innermost layer and put back behind it.
  rw [recordLayer, Noted.gives_get_bind, setJoinpoint, Noted.gives_modify_bind,
    Noted.gives_bind] at gives
  obtain ⟨result, early, between, late, runs, ends, rfl⟩ := gives
  rw [setJoinpoint, Noted.gives_modify_bind, Noted.gives_pure] at ends
  obtain ⟨rfl, rfl, _⟩ := ends
  rw [List.append_nil]
  exact ⟨_, _, runs⟩

/-- A layer with an around advice is one call of it, during which each use of proceeding is a run of
the next layer, and ends with what the advice returned, if the joinpoint takes it. -/
theorem around_of_recordLayer {plan : Plan β} {core : Core β} {level : Nat} {advice : Advice β}
    {inner : List (Advice β)} {ended : Except ExecutionError Value} {calls : List (Call β)}
    (gives : (engine.recordLayer plan core level (advice :: inner)).Gives before ended calls
      after) :
    ∃ seen proceeds returned, calls = [.advice advice seen proceeds returned] ∧
      (∀ made ∈ proceeds, ∃ start finish,
        (engine.recordLayer plan core (level + 1) inner).Gives start made.2 made.1 finish) ∧
      substituted plan advice returned = verdictOf ended := by
  rw [recordLayer, Noted.gives_get_bind, setJoinpoint, Noted.gives_modify_bind,
    Noted.gives_bind] at gives
  obtain ⟨returned, early, between, late, called, goes, rfl⟩ := gives
  obtain ⟨proceeds, rfl, makes⟩ := gives_recordAdvice called
  -- The slot holds the next layer during the call, and this is the layer within reach.
  have inside : ∀ made ∈ proceeds, ∃ start finish,
      (engine.recordLayer plan core (level + 1) inner).Gives start made.2 made.1 finish := by
    intro made mem
    simpa only [Makes, Option.bind_some, if_pos] using makes made mem
  rw [setJoinpoint, Noted.gives_modify_bind] at goes
  rcases returned with error | _ | value
  · obtain ⟨rfl, rfl, _⟩ := Noted.gives_pure.mp goes
    exact ⟨_, proceeds, _, rfl, inside, rfl⟩
  · obtain ⟨value, _, _, ends⟩ := Noted.gives_liftM_bind.mp goes
    obtain ⟨rfl, rfl, _⟩ := Noted.gives_pure.mp ends
    exact ⟨_, proceeds, _, rfl, inside, rfl⟩
  · obtain ⟨verdict, changed, taken, ends⟩ := Noted.gives_liftM_bind.mp goes
    have judged := substitute_eq taken
    cases verdict with
    | error error =>
      obtain ⟨rfl, rfl, _⟩ := Noted.gives_pure.mp ends
      exact ⟨_, proceeds, _, rfl, inside, judged.symm⟩
    | ok =>
      obtain ⟨value, _, _, last⟩ := Noted.gives_liftM_bind.mp ends
      obtain ⟨rfl, rfl, _⟩ := Noted.gives_pure.mp last
      exact ⟨_, proceeds, _, rfl, inside, judged.symm⟩

/-- Each layer calls what it must, and so do the layers inside it. -/
theorem layerCalls_of_recordLayer {plan : Plan β} {core : Core β} {level : Nat}
    {inner : List (Advice β)} (reach : inner = (plan.ofPhase .around).reverse.drop level)
    (within : level ≤ plan.depth) {ended : Except ExecutionError Value} {calls : List (Call β)}
    (gives : (engine.recordLayer plan core level inner).Gives before ended calls after) :
    plan.LayerCalls core level calls ended := by
  -- The induction is on the around advices inside; the invariant is that they are those that the
  -- layers outside have left.
  induction inner generalizing level before after ended calls with
  | nil =>
    obtain rfl : level = plan.depth := by
      have all := congrArg List.length reach
      simp only [List.length_nil, List.length_drop, List.length_reverse] at all
      exact Nat.le_antisymm within (Nat.sub_eq_zero_iff_le.mp all.symm)
    obtain ⟨start, finish, runs⟩ := innermost_of_recordLayer gives
    exact .innermost (innermostCalls_of_recordInnermost runs)
  | cons advice inner ih =>
    obtain ⟨outside, present, rest⟩ := Plan.around_of_reach reach
    obtain ⟨seen, proceeds, returned, rfl, inside, ending⟩ := around_of_recordLayer gives
    refine .around outside present (fun made mem => ?_) ending
    obtain ⟨start, finish, runs⟩ := inside made mem
    exact ih rest outside runs

/-- The layers come first, and the after advices are called on what they have left. An error of
these is the end; without one the end is taken from the invocation, if there are after advices at
all. -/
theorem ends_of_recordPhases {plan : Plan β} {core : Core β}
    {ended : Except ExecutionError Value} {calls : List (Call β)}
    (gives : (engine.recordPhases plan core).Gives before ended calls after) :
    ∃ layers produced layered late verdict left, calls = layers ++ late ∧
      (engine.recordLayer plan core 0 (plan.ofPhase .around).reverse).Gives before produced layers
        layered ∧
      (engine.recordObservers plan.target.label (plan.ofPhase .after)).Gives
        (layered.1.settle produced, layered.2) verdict late left ∧ after.2 = left.2 ∧
      ended = match verdict with
        | .error error => .error error
        | .ok () => if (plan.ofPhase .after).isEmpty then produced else left.1.outcome := by
  rw [recordPhases, Noted.gives_bind] at gives
  obtain ⟨produced, layers, layered, late, runs, goes, rfl⟩ := gives
  refine ⟨layers, produced, layered, late, ?_⟩
  -- Without after advices nothing is left to be called.
  split at goes
  · next unwatched =>
    obtain ⟨rfl, rfl, rfl⟩ := Noted.gives_pure.mp goes
    refine ⟨.ok (), (after.1.settle ended, after.2), rfl, runs, ?_, rfl, (if_pos unwatched).symm⟩
    rw [List.isEmpty_iff.mp unwatched]
    exact Noted.gives_pure.mpr ⟨rfl, rfl, rfl⟩
  · next watched =>
    rw [Noted.gives_modify_bind, Noted.gives_bind] at goes
    obtain ⟨verdict, early, left, rest, observes, ends, rfl⟩ := goes
    cases verdict with
    | error error =>
      obtain ⟨rfl, rfl, rfl⟩ := Noted.gives_pure.mp ends
      rw [List.append_nil]
      exact ⟨_, _, rfl, runs, observes, rfl, rfl⟩
    | ok =>
      rw [Noted.gives_get_bind] at ends
      obtain ⟨rfl, rfl, rfl⟩ := Noted.gives_pure.mp ends
      rw [List.append_nil]
      exact ⟨_, _, rfl, runs, observes, rfl, (if_neg watched).symm⟩

/-- The layers come first and the after advices last. An error of these is the end; without one, an
error of the layers is the end. -/
theorem phases_of_recordPhases {plan : Plan β} {core : Core β}
    {ended : Except ExecutionError Value} {calls : List (Call β)}
    (gives : (engine.recordPhases plan core).Gives before ended calls after) :
    ∃ layers result late verdict between, calls = layers ++ late ∧
      (engine.recordLayer plan core 0 (plan.ofPhase .around).reverse).Gives before result layers
        between ∧
      InTurn (observed plan.target.label) (plan.ofPhase .after) late verdict ∧
      (∀ error, verdict = .error error → ended = .error error) ∧
      (verdict = .ok () → ∀ error, result = .error error → ended = .error error) := by
  obtain ⟨layers, result, layered, late, verdict, left, rfl, runs, observes, _, rfl⟩ :=
    ends_of_recordPhases gives
  refine ⟨layers, result, late, verdict, layered, rfl, runs, inTurn_of_recordObservers observes,
    fun error failed => by rw [failed], fun passed error failed => ?_⟩
  rw [passed, failed]
  -- The after advices leave the error in the invocation, where the outcome is taken from.
  have outcome : left.1.outcome = .error error := by
    rw [kept_of_recordObservers observes, failed]
    rfl
  simp [outcome]

/-- An invocation calls what it must. -/
theorem invocationCalls_of_recordPhases {plan : Plan β} {core : Core β}
    {ended : Except ExecutionError Value} {calls : List (Call β)}
    (gives : (engine.recordPhases plan core).Gives before ended calls after) :
    plan.InvocationCalls core calls ended := by
  obtain ⟨layers, result, late, verdict, _, same, runs, observers, final, _⟩ :=
    phases_of_recordPhases gives
  -- The outermost layer starts with all around advices, the last of them first.
  have outermost := layerCalls_of_recordLayer rfl (Nat.zero_le _) runs
  exact ⟨layers, result, late, verdict, same, outermost, observers, final⟩

/-- Whatever a host does, an execution whose plan links calls the layers of the plan from the
outside in and then the after advices; one whose plan does not link calls nothing. Each call is one
run of the body of an advice, or of the core that the plan links to, and they are all that happens
from the linking to the end. -/
theorem execute_calls (engine : Engine β τ) {id : PlanId} {natural : Option (Symbol β)}
    {receiver : Option InstanceId} {args : List Value} {start finish : State β τ}
    {result : Except ExecutionError Value}
    (ran : (engine.execute id natural receiver args).run start = some (result, finish)) :
    ∃ calls, (engine.recordExecute id natural receiver args).run start =
        some ((result, calls), finish) ∧
      ((∃ error linked, (engine.link id natural).run start = some (.error error, linked) ∧
          result = .error error ∧ calls = []) ∨
        ∃ core linked state, (engine.link id natural).run start = some (.ok core, linked) ∧
          linked.world.plan? id = some state ∧ state.plan.InvocationCalls core calls result ∧
          engine.Happen core linked calls finish) := by
  -- The run is a recorded one without its notes.
  rw [← erase_recordExecute] at ran
  obtain ⟨⟨ended, calls⟩, recorded, rfl⟩ := run_map_eq_some.mp ran
  refine ⟨calls, recorded, ?_⟩
  obtain ⟨outcome, linked, links, goes⟩ := run_bind_eq_some.mp recorded
  -- Linking makes no calls, whether it succeeds or not.
  cases outcome with
  | error error =>
    obtain ⟨same, rfl⟩ := run_pure_eq_some.mp goes
    cases same
    exact .inl ⟨error, _, links, rfl, rfl⟩
  | ok core =>
    obtain ⟨state, _, finds, runs⟩ := run_bind_eq_some.mp goes
    obtain ⟨found, rfl⟩ := run_find_eq_some.mp finds
    obtain ⟨⟨_, invocation⟩, _, gives, ends⟩ := run_bind_eq_some.mp runs
    obtain ⟨rfl, rfl⟩ := run_pure_eq_some.mp ends
    have runs : Noted.Gives (engine.recordPhases state.plan core) (_, _) ended calls
        (invocation, _) := gives
    exact .inr ⟨core, _, state, links, found, invocationCalls_of_recordPhases runs,
      tells_recordPhases state.plan runs⟩

/-- Proceeds a number of times and returns nothing. -/
def proceedTimes (context : AdviceContext Nat) :
    Nat → AdviceAction Nat Nat (Except ExecutionError (Option Value) × AdviceContext Nat)
  | 0 => .done (.ok none, context)
  | times + 1 => .ask (.proceed context) fun _ => proceedTimes context times

/-- A host that counts the calls of its methods, and whose advices proceed as many times as their
codes say. -/
def proceedingHost : Host Nat Nat where
  initializer _ _ _ := .done (.ok ())
  method _ _ _ :=
    .ask .inspect fun state => .ask (.store (state.host + 1)) fun _ => .done (.ok .null)
  getter _ _ := .done (.ok .null)
  setter _ _ _ := .done (.ok ())
  stub _ _ _ := .done (.ok ())
  compile _ context := .done (.ok none, context)
  advice times invocation := proceedTimes invocation.context times

/-- A plan for a method with one around advice, which proceeds twice. -/
def twicePlan : Plan Nat where
  target := .root ⟨⟨0⟩, "A", "A"⟩ (.ofClass ⟨0⟩)
  joinpoint := .call
  annotations := []
  advices := [⟨"twice", ⟨.around, .of .method [] "*"⟩, "aspect", ⟨.lowest, 0, .lowest, 0⟩, 2⟩]

/-- The method is run once for each time that the around advice proceeds. -/
theorem execute_calls_twice :
    ∃ advice seen context returned linked finish,
      let core := Call.core (.call 0) context (.ok Value.null)
      let calls := [Call.advice advice seen [([core], .ok .null), ([core], .ok .null)] returned]
      ((proceedingHost.engine 0).recordExecute ⟨0⟩ (some (.method 0)) (some ⟨0⟩) []).run
          ⟨{ World.ofConfig .standard with plans := #[.fresh twicePlan] }, 0⟩ =
        some ((.ok .null, calls), finish) ∧ finish.host = 2 ∧
      twicePlan.InvocationCalls (.call 0) calls (.ok .null) ∧
      (proceedingHost.engine 0).Happen (.call 0) linked calls finish := by
  -- The run is computed, and the theorem tells what it called.
  have ran : ((proceedingHost.engine 0).execute ⟨0⟩ (some (.method 0)) (some ⟨0⟩) []).run
      ⟨{ World.ofConfig .standard with plans := #[.fresh twicePlan] }, 0⟩ =
    some (.ok .null, _) := rfl
  obtain ⟨calls, recorded, outcome⟩ := execute_calls (proceedingHost.engine 0) ran
  rcases outcome with ⟨_, _, links, _⟩ | ⟨core, linked, state, links, found, invocation, happen⟩
  · cases links
  · cases links
    cases found
    cases recorded
    exact ⟨_, _, _, _, _, _, rfl, rfl, invocation, happen⟩

end Engine

end AspectWeaving
