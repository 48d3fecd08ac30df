import AspectWeaving.Proofs.Engine.Linking
import AspectWeaving.Proofs.Engine.Progress
import AspectWeaving.Proofs.Engine.Within

/-! Observers: advices that only look on. A slot that has no other advices gives what its natural
symbol gives, and runs it once, as if the weaver were disabled; unless its plan was compiled from
another symbol before. -/

namespace AspectWeaving

variable {β τ α : Type}

/-- One run of a core: which one, what it was run on, and how it ended. -/
structure CoreRun (β : Type) where
  core : Core β
  receiver : Option InstanceId
  args : List Value
  ended : Except ExecutionError Value

/-- A state with the weaver disabled and all else as it is. -/
def State.disabled (state : State β τ) : State β τ :=
  { state with
    world := state.world.changeWeaver fun weaver =>
      { weaver with config := { weaver.config with enabled := false } } }

mutual

/-- The runs of the core that a call is or makes. -/
def Call.coreRuns : Call β → List (CoreRun β)
  | .core core context ended => [⟨core, context.receiver, context.args, ended⟩]
  | .advice _ _ proceeds _ => coreRunsOfProceeds proceeds

/-- The runs of the core while an advice proceeds, once or several times. -/
def coreRunsOfProceeds : List (Proceeding β) → List (CoreRun β)
  | [] => []
  | (calls, _) :: rest => coreRunsOfCalls calls ++ coreRunsOfProceeds rest

/-- The runs of the core that calls are or make. -/
def coreRunsOfCalls : List (Call β) → List (CoreRun β)
  | [] => []
  | call :: rest => call.coreRuns ++ coreRunsOfCalls rest

end

/-- Calls one after the other run the core as often as all of them. -/
theorem coreRunsOfCalls_append (first second : List (Call β)) :
    coreRunsOfCalls (first ++ second) = coreRunsOfCalls first ++ coreRunsOfCalls second := by
  -- The induction is on the first calls, each of which has its own runs.
  induction first with
  | nil => rfl
  | cons call rest ih => simp [coreRunsOfCalls, ih]

/-- Where no layer is within reach the core is not run. -/
theorem coreRunsOfProceeds_of_refused {proceeds : List (Proceeding β)}
    (refused : ∀ made ∈ proceeds, Refused made) : coreRunsOfProceeds proceeds = [] := by
  -- The induction is on the uses of proceeding, each of which calls nothing.
  induction proceeds with
  | nil => rfl
  | cons made rest ih =>
    obtain ⟨⟨silent, _⟩, others⟩ := List.forall_mem_cons.mp refused
    rw [coreRunsOfProceeds, silent, ih others]
    rfl

/-- Runs that are alike: both have the same result, or neither has one, and their ends are
related. -/
def Alike (R : State β τ → State β τ → Prop) :
    Option (α × State β τ) → Option (α × State β τ) → Prop :=
  Option.Rel fun left right => left.1 = right.1 ∧ R left.2 right.2

/-- A context in which a core is run as in another one: on the same instance and arguments, or, if
there is no instance, with the same element to name in the error. -/
structure AdviceContext.RunsAs (context origin : AdviceContext β) : Prop where
  receiver : context.receiver = origin.receiver
  args : context.args = origin.args
  label : origin.receiver = none → context.target.label = origin.target.label

/-- A context in which a core is run as in another one, and that has its value. -/
structure AdviceContext.Agrees (context seen : AdviceContext β) : Prop extends
    context.RunsAs seen where
  value : context.value = seen.value

/-- A context runs a core as itself. -/
theorem AdviceContext.RunsAs.refl (context : AdviceContext β) : context.RunsAs context :=
  ⟨rfl, rfl, fun _ => rfl⟩

/-- A context agrees with itself. -/
theorem AdviceContext.Agrees.refl (context : AdviceContext β) : context.Agrees context :=
  ⟨.refl context, rfl⟩

/-- A context that runs a core as another one does runs it as whatever that one runs it as. -/
theorem AdviceContext.RunsAs.trans {context seen origin : AdviceContext β}
    (late : context.RunsAs seen) (early : seen.RunsAs origin) : context.RunsAs origin where
  receiver := late.receiver.trans early.receiver
  args := late.args.trans early.args
  -- Without an instance at first there is none in between.
  label missing := (late.label (early.receiver.trans missing)).trans (early.label missing)

/-- A context that agrees with another one agrees with whatever that one agrees with. -/
theorem AdviceContext.Agrees.trans {context seen origin : AdviceContext β}
    (late : context.Agrees seen) (early : seen.Agrees origin) : context.Agrees origin :=
  -- The parts agree one by one.
  ⟨late.toRunsAs.trans early.toRunsAs, late.value.trans early.value⟩

namespace Engine

variable {engine : Engine β τ} {R : State β τ → State β τ → Prop}
  {before after : Invocation β × State β τ}

/-- An advice that looks on: wherever it can be called on an instance, it returns no value, does not
fail, leaves instance, arguments and value as they are, and does nothing else that makes a
difference. If there is no instance it also leaves the element that the error names. -/
def LooksOn (engine : Engine β τ) (R : State β τ → State β τ → Prop)
    (receiver : Option InstanceId) (advice : Advice β) : Prop :=
  ∀ invocation state, invocation.context.receiver = receiver → R state state → ∃ left after,
    ((engine.callAdvice advice nowhere).run invocation).run state =
        some ((.ok none, left), after) ∧
      left.context.Agrees invocation.context ∧ R state after

/-- A program that ends as wanted without proceeding, and does nothing that makes a difference. -/
def Rests (engine : Engine β τ) (R : State β τ → State β τ → Prop) (wanted : α → Prop) :
    AdviceAction β τ α → State β τ → Prop
  | .done result, _ => wanted result
  | .ask (.plain request) next, state => ∃ answer after,
      (engine.serve request).run state = some (answer, after) ∧ R state after ∧
        Rests engine R wanted (next answer) after
  | .ask (.proceed _) _, _ => False

/-- What may be returned after proceeding: its error, or no value or its value. -/
def Relayed : Except ExecutionError Value → Except ExecutionError (Option Value) → Prop
  | .error error, returned => returned = .error error
  | .ok value, returned => returned = .ok none ∨ returned = .ok (some value)

/-- A program that proceeds once, with the instance, the arguments and the value that it has seen,
leaves them as it then finds them, relays how proceeding ended, and does nothing else that makes a
difference. -/
def ProceedsOnce (engine : Engine β τ) (R : State β τ → State β τ → Prop)
    (seen : AdviceContext β) :
    AdviceAction β τ (Except ExecutionError (Option Value) × AdviceContext β) →
      State β τ → Prop
  | .done _, _ => False
  | .ask (.plain request) next, state => ∃ answer after,
      (engine.serve request).run state = some (answer, after) ∧ R state after ∧
        ProceedsOnce engine R seen (next answer) after
  | .ask (.proceed context) next, _ => context.Agrees seen ∧ ∀ ended left after,
      left.context.receiver = seen.receiver → R after after →
        Rests engine R (fun (returned, context) => Relayed ended returned ∧
          context.Agrees left.context) (next (ended, left)) after

/-- A plan all of whose advices are observers of what is done with an instance, none of which is for
compiling or for errors. -/
structure Observes (engine : Engine β τ) (R : State β τ → State β τ → Prop)
    (receiver : Option InstanceId) (plan : Plan β) : Prop where
  compile : plan.ofPhase .compile = []
  afterThrow : plan.ofPhase .afterThrow = []
  around : ∀ advice ∈ plan.ofPhase .around, ∀ invocation state,
    invocation.context.receiver = receiver → R state state →
      engine.ProceedsOnce R invocation.context (engine.host.advice advice.body invocation) state
  others : ∀ advice ∈ plan.advices, advice.phase ≠ .around → engine.LooksOn R receiver advice

/-- Calls of observers with no layer within reach: they do not run the core, and nothing changes
that makes a difference. -/
structure Idles (R : State β τ → State β τ → Prop) (before : Invocation β × State β τ)
    (calls : List (Call β)) (after : Invocation β × State β τ) : Prop where
  silent : coreRunsOfCalls calls = []
  context : after.1.context.Agrees before.1.context
  kept : after.1 = { before.1 with context := after.1.context }
  related : R before.2 after.2

/-- Where no advice is called nothing changes. -/
theorem Idles.nil (fair : R before.2 before.2) : Idles R before [] before :=
  ⟨rfl, .refl _, rfl, fair⟩

/-- Observers leave what the core is run on. -/
theorem Idles.runsAs {calls : List (Call β)} {origin : AdviceContext β}
    (idles : Idles R before calls after) (starts : before.1.context.RunsAs origin) :
    after.1.context.RunsAs origin :=
  -- An advice that idles leaves what the core is run on.
  idles.context.toRunsAs.trans starts

/-- Calls of observers after other such calls. -/
theorem Idles.append {between : Invocation β × State β τ} {early late : List (Call β)}
    (overlooks : Overlooks R) (first : Idles R before early between)
    (second : Idles R between late after) : Idles R before (early ++ late) after where
  -- Neither part has run the core, and each leaves the context as it finds it.
  silent := by rw [coreRunsOfCalls_append, first.silent, second.silent, List.append_nil]
  context := second.context.trans first.context
  kept := by rw [second.kept, first.kept]
  related := overlooks.trans first.related second.related

/-- The call of an advice that looks on. -/
theorem LooksOn.idles {advice : Advice β} {receiver : Option InstanceId}
    (looksOn : engine.LooksOn R receiver advice) (on : before.1.context.receiver = receiver)
    (fair : R before.2 before.2) :
    ∃ calls after, (engine.recordAdvice advice recordedNowhere).Gives before (.ok none) calls
      after ∧ Idles R before calls after := by
  obtain ⟨left, state, called, agrees, related⟩ := looksOn before.1 before.2 on fair
  -- The call is a recorded one without its notes.
  rw [← erase_recordAdvice_nowhere] at called
  obtain ⟨calls, gives⟩ := Noted.exists_gives called
  obtain ⟨proceeds, rfl, refused⟩ := gives_recordAdvice_nowhere gives
  refine ⟨_, _, gives, ?_, agrees, kept_of_recordAdvice gives, related⟩
  simp [coreRunsOfCalls, Call.coreRuns, coreRunsOfProceeds_of_refused refused]

section Sequences

variable (before) (overlooks : Overlooks R) (fair : R before.2 before.2) {advices : List (Advice β)}
  {receiver : Option InstanceId} (on : before.1.context.receiver = receiver)
  (looksOn : ∀ advice ∈ advices, engine.LooksOn R receiver advice)
include overlooks fair on looksOn

/-- Observers among which none may return a value are all called. -/
theorem idles_recordObservers (label : String) :
    ∃ calls after, (engine.recordObservers label advices).Gives before (.ok ()) calls after ∧
      Idles R before calls after := by
  -- The induction is on the advices that are still to be called.
  induction advices generalizing before with
  | nil => exact ⟨[], before, Noted.gives_pure.mpr ⟨rfl, rfl, rfl⟩, .nil fair⟩
  | cons advice rest ih =>
    obtain ⟨first, others⟩ := List.forall_mem_cons.mp looksOn
    obtain ⟨early, between, called, idles⟩ := first.idles on fair
    have fair' := overlooks.trans (overlooks.symm idles.related) idles.related
    obtain ⟨late, after, goes, idles'⟩ :=
      ih between fair' (idles.context.receiver.trans on) others
    refine ⟨early ++ late, after, ?_, idles.append overlooks idles'⟩
    exact Noted.gives_bind.mpr ⟨.ok none, early, between, late, called, goes, rfl⟩

/-- Observers among which each may replace the value leave it as it is. -/
theorem idles_recordSubstitutes (plan : Plan β) :
    ∃ calls after, (engine.recordSubstitutes plan advices).Gives before
      (.ok before.1.context.value) calls after ∧ Idles R before calls after := by
  -- The induction is on the advices that are still to be called.
  induction advices generalizing before with
  | nil => exact ⟨[], before, rfl, .nil fair⟩
  | cons advice rest ih =>
    obtain ⟨first, others⟩ := List.forall_mem_cons.mp looksOn
    obtain ⟨early, between, called, idles⟩ := first.idles on fair
    have fair' := overlooks.trans (overlooks.symm idles.related) idles.related
    obtain ⟨late, after, goes, idles'⟩ :=
      ih between fair' (idles.context.receiver.trans on) others
    rw [idles.context.value] at goes
    refine ⟨early ++ late, after, ?_, idles.append overlooks idles'⟩
    exact Noted.gives_bind.mpr ⟨.ok none, early, between, late, called, goes, rfl⟩

end Sequences

/-- The core depends on the instance and the arguments of a context only, or on its element if there
is no instance. -/
theorem runCore_congr {context origin : AdviceContext β} (starts : context.RunsAs origin)
    (core : Core β) : engine.runCore core context = engine.runCore core origin := by
  -- The core looks at the receiver and the arguments, and at the label if the receiver is missing.
  unfold runCore
  rw [starts.receiver, starts.args]
  cases missing : origin.receiver with
  | none =>
    dsimp only
    rw [starts.label missing]
  | some receiver => rfl

/-- What has come of a layer is what came of its core, which was run once; nothing else makes a
difference. -/
structure Echoes (R : State β τ → State β τ → Prop) (core : Core β) (origin : AdviceContext β)
    (invocation : Invocation β) (ended : Except ExecutionError Value)
    (finish : State β τ) (given : Except ExecutionError Value) (calls : List (Call β))
    (after : Invocation β × State β τ) : Prop where
  given : given = ended
  runs : coreRunsOfCalls calls = [⟨core, origin.receiver, origin.args, ended⟩]
  context : after.1.context.RunsAs origin
  value : ∀ value, ended = .ok value → after.1.context.value = value
  error : after.1.error = invocation.error
  joinpoint : after.1.joinpoint = invocation.joinpoint
  related : R finish after.2

/-- What has come of the program of an advice is what came of the layer that it proceeded to. -/
structure Carries (R : State β τ → State β τ → Prop) (core : Core β) (origin : AdviceContext β)
    (invocation : Invocation β) (ended : Except ExecutionError Value)
    (finish : State β τ) (given : Except ExecutionError (Option Value) × AdviceContext β)
    (proceeds : List (Proceeding β)) (after : Invocation β × State β τ) : Prop where
  relayed : Relayed ended given.1
  runs : coreRunsOfProceeds proceeds = [⟨core, origin.receiver, origin.args, ended⟩]
  context : given.2.RunsAs origin
  value : ∀ value, ended = .ok value → given.2.value = value
  error : after.1.error = invocation.error
  joinpoint : after.1.joinpoint = invocation.joinpoint
  related : R finish after.2

/-- Advices of any other phase than around look on. -/
theorem Observes.looksOn {plan : Plan β} {receiver : Option InstanceId}
    (observes : engine.Observes R receiver plan) (phase : Phase) (other : phase ≠ .around) :
    ∀ advice ∈ plan.ofPhase phase, engine.LooksOn R receiver advice := by
  -- Advices of another phase than around are among the others.
  intro advice member
  obtain ⟨member, same⟩ := List.mem_filter.mp member
  exact observes.others advice member (by rwa [beq_iff_eq.mp same])

section Layers

variable {plan : Plan β} (overlooks : Overlooks R) {core : Core β} {origin : AdviceContext β}
  (observes : engine.Observes R origin.receiver plan)
  (heeds : ∀ left right, R left right → Alike R
    ((engine.runCore core origin).run left)
    ((engine.runCore core origin).run right))
include overlooks

/-- A program that does not proceed leaves the invocation alone. -/
theorem Rests.exists_gives (before : Invocation β × State β τ)
    (reachable : Nat → Option (Recorded β τ (Except ExecutionError Value)))
    {wanted : α → Prop} {program : AdviceAction β τ α}
    (rests : engine.Rests R wanted program before.2) (fair : R before.2 before.2) :
    ∃ result state, Noted.Gives (program.run (engine.serveRecorded reachable)) before result []
      (before.1, state) ∧ wanted result ∧ R before.2 state := by
  -- The induction is on the program.
  induction program generalizing before with
  | done result => exact ⟨result, before.2, Noted.gives_pure.mpr ⟨rfl, rfl, rfl⟩, rests, fair⟩
  | ask asked next ih =>
    cases asked with
    | proceed context => exact rests.elim
    | plain request =>
      obtain ⟨answer, between, served, related, rests⟩ := rests
      have fair' := overlooks.trans (overlooks.symm related) related
      obtain ⟨result, state, goes, wanted, related'⟩ := ih answer (before.1, between) rests fair'
      refine ⟨result, state, ?_, wanted, overlooks.trans related related'⟩
      exact Noted.gives_bind.mpr ⟨answer, [], _, [], gives_serveRecorded served, goes, rfl⟩

/-- A program that proceeds once follows what the layer that it proceeds to follows. -/
theorem ProceedsOnce.follows (before : Invocation β × State β τ)
    {reachable : Nat → Option (Recorded β τ (Except ExecutionError Value))}
    {original : Run β τ (Except ExecutionError Value)}
    {layer : Recorded β τ (Except ExecutionError Value)}
    (inside : ∀ inner : Invocation β × State β τ,
      inner.1.context.RunsAs origin → R inner.2 inner.2 →
        layer.Follows R original (Echoes R core origin inner.1) inner)
    {program : AdviceAction β τ (Except ExecutionError (Option Value) × AdviceContext β)}
    {seen : AdviceContext β} (once : engine.ProceedsOnce R seen program before.2)
    (starts : seen.RunsAs origin) (fair : R before.2 before.2)
    (within : before.1.joinpoint.bind reachable = some layer) :
    Noted.Follows (program.run (engine.serveRecorded reachable)) R original
      (Carries R core origin before.1) before := by
  -- The induction is on the program, up to where it proceeds.
  induction program generalizing before with
  | done result => exact once.elim
  | ask asked next ih =>
    cases asked with
    | plain request =>
      obtain ⟨answer, between, served, related, once⟩ := once
      have fair' := overlooks.trans (overlooks.symm related) related
      have first : (engine.serveRecorded reachable (.plain request)).Gives before answer []
          (before.1, between) := gives_serveRecorded served
      refine first.follows_bind (fun unseen => overlooks.trans related unseen) ?_
      exact ih answer (before.1, between) once fair' within
    | proceed context =>
      obtain ⟨agrees, ends⟩ := once
      have starts' := agrees.toRunsAs.trans starts
      refine (follows_serveRecorded within (inside _ starts' fair)).bind ?_
      rintro state ended finish given proceeds between - -
        ⟨result, calls, inner, echoes, rfl, rfl, rfl⟩
      obtain rfl := echoes.given
      have fair' := overlooks.trans (overlooks.symm echoes.related) echoes.related
      -- What follows does not proceed again.
      have rests := ends result { inner.1 with joinpoint := before.1.joinpoint } inner.2
        (echoes.context.receiver.trans starts.receiver.symm) fair'
      obtain ⟨given, last, goes, ⟨relayed, kept⟩, related⟩ := rests.exists_gives overlooks
        ({ inner.1 with joinpoint := before.1.joinpoint }, inner.2) reachable fair'
      refine ⟨given, [], _, goes, ?_⟩
      exact {
        relayed
        runs := by simp [coreRunsOfProceeds, echoes.runs]
        context := kept.toRunsAs.trans echoes.context
        value := fun value same => kept.value.trans (echoes.value value same)
        error := echoes.error
        joinpoint := rfl
        related := overlooks.trans echoes.related related }

include observes heeds

/-- In the innermost layer the core is run once, and what has come of it stays. -/
theorem follows_recordInnermost (before : Invocation β × State β τ)
    (starts : before.1.context.RunsAs origin) (fair : R before.2 before.2) :
    (engine.recordInnermost plan core).Follows R
      (engine.runCore core origin) (Echoes R core origin before.1) before := by
  obtain ⟨early, between, observed, idles⟩ := idles_recordObservers before overlooks fair
    starts.receiver (observes.looksOn .before (by decide)) plan.target.label
  have starts' := idles.runsAs starts
  have fair' := overlooks.trans (overlooks.symm idles.related) idles.related
  have cored : (engine.recordCore core between.1.context).Follows R
      (engine.runCore core between.1.context) _ between :=
    follows_recordCore fair'
  rw [runCore_congr starts'] at cored
  refine observed.follows_bind (fun unseen => overlooks.trans idles.related unseen) ?_
  refine Noted.Follows.get_bind (cored.bind ?_)
  rintro state ended finish given calls inside unseen ran ⟨rfl, rfl, rfl⟩
  have fair'' : R finish finish := by
    have twice := heeds state state (overlooks.trans (overlooks.symm unseen) unseen)
    rw [ran] at twice
    cases twice with
    | some alike => exact alike.2
  cases given with
  | ok value =>
    -- The value goes into the context, where the observers that follow leave it.
    obtain ⟨late, after, follows, idles'⟩ := idles_recordSubstitutes
      ({ between.1 with context := { between.1.context with value } }, finish) overlooks fair''
      starts'.receiver (observes.looksOn .afterReturn (by decide)) plan
    refine ⟨.ok value, late, after, Noted.gives_modify_bind.mpr follows, ?_⟩
    exact {
      given := rfl
      runs := by
        simp [coreRunsOfCalls_append, coreRunsOfCalls, Call.coreRuns, idles.silent,
          idles'.silent, starts'.receiver, starts'.args]
      context := idles'.runsAs ⟨starts'.receiver, starts'.args, starts'.label⟩
      value := fun other same => by
        cases same
        exact idles'.context.value
      error := by rw [idles'.kept, idles.kept]
      joinpoint := by rw [idles'.kept, idles.kept]
      related := idles'.related }
  | error error =>
    -- No advice is there to handle the error.
    refine ⟨.error error, [], (between.1, finish), ?_, ?_⟩
    · dsimp only
      rw [observes.afterThrow, if_pos (by simp)]
      exact Noted.gives_pure.mpr ⟨rfl, rfl, rfl⟩
    exact {
      given := rfl
      runs := by
        simp [coreRunsOfCalls_append, coreRunsOfCalls, Call.coreRuns, idles.silent,
          starts'.receiver, starts'.args]
      context := starts'
      value := fun other same => by contradiction
      error := by rw [idles.kept]
      joinpoint := by rw [idles.kept]
      related := fair'' }

/-- Whatever observers are around it, the core is run once, and what has come of it stays. -/
theorem follows_recordLayer (level : Nat) (before : Invocation β × State β τ)
    (fits : ∀ {state value finish}, (engine.runCore core origin).run state =
      some (.ok value, finish) → ∀ advice,
        plan.joinpoint.checkValue .around advice plan.target.label value = .ok ())
    {inner : List (Advice β)} (around : ∀ advice ∈ inner, advice ∈ plan.ofPhase .around)
    (starts : before.1.context.RunsAs origin) (fair : R before.2 before.2) :
    (engine.recordLayer plan core level inner).Follows R
      (engine.runCore core origin) (Echoes R core origin before.1) before := by
  -- The induction is on the around advices, from the outside to the inside.
  induction inner generalizing level before with
  | nil =>
    refine Noted.Follows.get_bind (Noted.Follows.modify_bind ?_)
    refine (follows_recordInnermost overlooks observes heeds
      ({ before.1 with joinpoint := none }, before.2) starts fair).bind ?_
    intro state ended finish given calls after _ _ echoes
    refine ⟨given, [], ({ after.1 with joinpoint := before.1.joinpoint }, after.2), ?_, ?_⟩
    · exact Noted.gives_modify_bind.mpr (Noted.gives_pure.mpr ⟨rfl, rfl, rfl⟩)
    · rw [List.append_nil]
      exact { echoes with joinpoint := rfl }
  | cons advice inner ih =>
    obtain ⟨present, others⟩ := List.forall_mem_cons.mp around
    have phase : advice.phase = .around := beq_iff_eq.mp (List.mem_filter.mp present).2
    let entered : Invocation β × State β τ :=
      ({ before.1 with joinpoint := some (level + 1) }, before.2)
    let reachable (layer : Nat) : Option (Recorded β τ (Except ExecutionError Value)) :=
      if layer = level + 1 then some (engine.recordLayer plan core (level + 1) inner) else none
    -- The advice proceeds to the next layer, which is the one that the slot names.
    have within : entered.1.joinpoint.bind reachable =
        some (engine.recordLayer plan core (level + 1) inner) := by simp [entered, reachable]
    have once : engine.ProceedsOnce R entered.1.context
        (engine.host.advice advice.body entered.1) entered.2 :=
      observes.around advice present entered.1 entered.2 starts.receiver fair
    have carried := once.follows overlooks entered (fun inside starts fair =>
      ih (level + 1) inside others starts fair) starts fair within
    refine Noted.Follows.get_bind (Noted.Follows.modify_bind ?_)
    refine (follows_recordAdvice entered carried).bind ?_
    rintro state ended finish returned calls between - ran
      ⟨left, proceeds, after, carries, rfl, rfl⟩
    let ends : Invocation β × State β τ :=
      ({ after.1 with context := left, joinpoint := before.1.joinpoint }, after.2)
    refine ⟨ended, [], ends, ?_, ?_⟩
    · refine Noted.gives_modify_bind.mpr ?_
      have relayed : Relayed ended returned := carries.relayed
      have kept : ∀ value, ended = .ok value → left.value = value := carries.value
      cases ended with
      | error error =>
        obtain rfl := relayed
        exact Noted.gives_pure.mpr ⟨rfl, rfl, rfl⟩
      | ok value =>
        obtain rfl := kept value rfl
        have told : Noted.Gives (do return .ok (← (getValue : LayerRun β τ Value)) :
            Recorded β τ (Except ExecutionError Value)) ends (.ok left.value) [] ends :=
          Noted.gives_liftM_bind.mpr ⟨left.value, ends, rfl,
            Noted.gives_pure.mpr ⟨rfl, rfl, rfl⟩⟩
        rcases relayed with rfl | rfl
        · exact told
        · -- The joinpoint takes its own value, which is in the context already.
          have taken := fits ran advice.key
          refine Noted.gives_liftM_bind.mpr ⟨.ok (), ends, ?_, told⟩
          simp only [substitute, phase, taken]
          rfl
    · exact {
        given := rfl
        runs := by simp [coreRunsOfCalls, Call.coreRuns, carries.runs]
        context := carries.context
        value := carries.value
        error := carries.error
        joinpoint := rfl
        related := carries.related }

/-- The after advices leave the end of the layers as it is. -/
theorem follows_recordPhases (before : Invocation β × State β τ)
    (fits : ∀ {state value finish}, (engine.runCore core origin).run state =
      some (.ok value, finish) → ∀ advice,
        plan.joinpoint.checkValue .around advice plan.target.label value = .ok ())
    (starts : before.1.context.RunsAs origin)
    (clear : before.1.error = none) (fair : R before.2 before.2) :
    (engine.recordPhases plan core).Follows R (engine.runCore core origin)
      (fun ended finish given calls after => given = ended ∧
        coreRunsOfCalls calls = [⟨core, origin.receiver, origin.args, ended⟩] ∧ R finish after.2)
      before := by
  refine (follows_recordLayer overlooks observes heeds 0 before fits
    (fun advice member => List.mem_reverse.mp member) starts fair).bind ?_
  rintro state ended finish given layers between - - echoes
  obtain rfl := echoes.given
  have fair' := overlooks.trans (overlooks.symm echoes.related) echoes.related
  by_cases unwatched : (plan.ofPhase .after).isEmpty
  · refine ⟨given, [], between, ?_, rfl, by simpa using echoes.runs, echoes.related⟩
    rw [if_pos unwatched]
    exact Noted.gives_pure.mpr ⟨rfl, rfl, rfl⟩
  · -- What the layers ended with does not touch the instance.
    have on : (between.1.settle given).context.receiver = origin.receiver := by
      cases given <;> exact echoes.context.receiver
    obtain ⟨late, after, observed, idles⟩ := idles_recordObservers
      (between.1.settle given, between.2) overlooks fair' on
      (observes.looksOn .after (by decide)) plan.target.label
    -- The observers leave both the value and the error that the layers ended with.
    have same : after.1.outcome = given := by
      rw [idles.kept, Invocation.outcome]
      cases given with
      | error error => rfl
      | ok value =>
        have none : between.1.error = none := echoes.error.trans clear
        simp only [Invocation.settle, none]
        exact congrArg Except.ok idles.context.value
    refine ⟨given, late ++ [], after, ?_, rfl, ?_, overlooks.trans echoes.related idles.related⟩
    · rw [if_neg unwatched]
      refine Noted.gives_modify_bind.mpr (Noted.gives_bind.mpr
        ⟨.ok (), late, after, [], observed, ?_, rfl⟩)
      exact Noted.gives_get_bind.mpr (Noted.gives_pure.mpr ⟨same.symm, rfl, rfl⟩)
    · rw [coreRunsOfCalls_append, List.append_nil, idles.silent, echoes.runs]
      rfl

end Layers

section Slots

variable {slot : Slot β} {joinpoint : Joinpoint} {receiver : Option InstanceId}
  {args : List Value}

/-- Running a natural symbol twice, from states that the original cannot tell apart, is running its
core twice. -/
theorem alike_runCore {core : Core β} (linked : slot.linked joinpoint = .ok core)
    {left right : State β τ}
    (alike : Alike R ((engine.executeNatural slot joinpoint receiver args).run left)
      ((engine.executeNatural slot joinpoint receiver args).run right)) :
    Alike R ((engine.runCore core (Invocation.begin slot.target [] receiver args).context).run left)
      ((engine.runCore core (Invocation.begin slot.target [] receiver args).context).run
        right) := by
  -- The natural symbol links to the core, so that running the one is running the other.
  have same : engine.executeNatural slot joinpoint receiver args =
      engine.runCore core (Invocation.begin slot.target [] receiver args).context := by
    rw [← erase_recordNatural, recordNatural_eq, linked]
    simp
  rwa [same] at alike

variable {off on : State β τ} {found : PlanState β}

/-- A plan of observers does what the natural symbol of its slot does. -/
theorem recordExecute_observed {start : State β τ} {id : PlanId} (overlooks : Overlooks R)
    (related : R off start) (planned : start.world.plan? id = some found)
    (serves : found.Serves slot joinpoint) (observes : engine.Observes R receiver found.plan)
    (heeds : ∀ left right, R left right → Alike R
      ((engine.executeNatural slot joinpoint receiver args).run left)
      ((engine.executeNatural slot joinpoint receiver args).run right)) :
    Option.Rel (fun natural woven => natural.1.1 = woven.1.1 ∧
        coreRunsOfCalls natural.1.2 = coreRunsOfCalls woven.1.2 ∧ R natural.2 woven.2)
      ((engine.recordNatural slot joinpoint receiver args).run off)
      ((engine.recordExecute id slot.natural receiver args).run start) := by
  have fair := overlooks.trans (overlooks.symm related) related
  obtain ⟨between, after, links, kept, present, same, _⟩ :=
    run_link_of_serves engine overlooks fair planned serves observes.compile
  have related' := overlooks.trans related kept
  rw [recordNatural_eq, recordExecute, StateT.run_bind, links]
  cases linked : slot.linked joinpoint with
  | error error => exact .some ⟨rfl, rfl, related'⟩
  | ok core =>
    -- The invocation starts with what the core would be run on without a plan.
    let origin := (Invocation.begin slot.target ([] : List (Decoration β)) receiver args).context
    let before : Invocation β × State β τ :=
      (.begin found.plan.target found.plan.annotations receiver args, between)
    have heeds' (left right : State β τ) (alike : R left right) : Alike R
        ((engine.runCore core origin).run left) ((engine.runCore core origin).run right) :=
      alike_runCore linked (heeds left right alike)
    have fits {state : State β τ} {value : Value} {finish : State β τ}
        (ran : (engine.runCore core origin).run state = some (.ok value, finish))
        (advice : String) :
        found.plan.joinpoint.checkValue .around advice found.plan.target.label value = .ok () := by
      obtain ⟨symbol, _, links⟩ := slot.exists_link_of_linked linked
      rw [serves.target, serves.use]
      exact checkValue_of_runCore links ran advice
    have starts : before.1.context.RunsAs origin :=
      ⟨rfl, rfl, fun _ => congrArg Target.label serves.target⟩
    have phases := (follows_recordPhases overlooks observes heeds' before fits starts rfl
      (overlooks.trans (overlooks.symm related') related')).rel
        fun state unseen => heeds' off state (overlooks.trans related' unseen)
    simp only [Option.bind_eq_bind, Option.bind_some, StateT.run_bind, run_findPlan present, same,
      StateT.run_map]
    -- Both the core and the phases have results, or neither has one.
    generalize (engine.runCore core origin).run off = plain at phases ⊢
    generalize ((engine.recordPhases found.plan core).run.run before.1).run between = woven
      at phases ⊢
    cases phases with
    | none => exact .none
    | some ends =>
      obtain ⟨ended, finish, ⟨same, alike⟩, given, runs, last⟩ := ends
      refine .some ⟨same.trans given.symm, ?_, overlooks.trans alike last⟩
      have same : _ = ended := same
      rw [runs, ← same]
      rfl

/-- Using a slot while the weaver is disabled, and while it is enabled and the plan of the slot has
observers only, comes to the same: one result, the same runs of the core, and ends that the
original cannot tell apart. The plan serves the slot: it was made for it, and if it has been
compiled and linked before, this was from the natural symbol of the slot, as a plan keeps what it
was compiled to first. Where plans are used through woven classes only they come to serve their
slots (`World.serves_of_run`). -/
theorem executeSlot_transparent (engine : Engine β τ) (overlooks : Overlooks R)
    (related : R off on) (disabled : off.world.weaver.config.enabled = false)
    (enabled : on.world.weaver.config.enabled = true)
    (planned : (on.world.planFor slot.target joinpoint).2.plan?
      (on.world.planFor slot.target joinpoint).1 = some found)
    (serves : found.Serves slot joinpoint) (observes : engine.Observes R receiver found.plan)
    (heeds : ∀ left right, R left right → Alike R
      ((engine.executeNatural slot joinpoint receiver args).run left)
      ((engine.executeNatural slot joinpoint receiver args).run right)) :
    Alike R ((engine.executeSlot slot joinpoint receiver args).run off)
        ((engine.executeSlot slot joinpoint receiver args).run on) ∧
      Option.Rel (fun natural woven =>
          coreRunsOfCalls natural.1.2 = coreRunsOfCalls woven.1.2)
        ((engine.recordSlot slot joinpoint receiver args).run off)
        ((engine.recordSlot slot joinpoint receiver args).run on) := by
  have fair := overlooks.trans (overlooks.symm related) related
  have related' := overlooks.trans related (overlooks.planFor slot.target joinpoint fair)
  have observed := recordExecute_observed overlooks related' planned serves observes heeds
  have natural : (engine.recordSlot slot joinpoint receiver args).run off =
      (engine.recordNatural slot joinpoint receiver args).run off := by
    show StateT.run (if off.world.weaver.config.enabled = true then _ else _) off = _
    rw [if_neg (by simp [disabled])]
  have woven : (engine.recordSlot slot joinpoint receiver args).run on =
      (engine.recordExecute (on.world.planFor slot.target joinpoint).1 slot.natural receiver
        args).run { on with world := (on.world.planFor slot.target joinpoint).2 } := by
    show StateT.run (if on.world.weaver.config.enabled = true then _ else _) on = _
    rw [if_pos enabled]
    rfl
  rw [← erase_recordSlot, StateT.run_map, StateT.run_map, natural, woven]
  -- Both runs have results, or neither has one.
  generalize (engine.recordNatural slot joinpoint receiver args).run off = left,
    (engine.recordExecute _ slot.natural receiver args).run _ = right at observed ⊢
  cases observed with
  | none => exact ⟨.none, .none⟩
  | some alike => exact ⟨.some ⟨alike.1, alike.2.2⟩, .some alike.2.1⟩

end Slots

/-- A host whose advices count their calls, and whose codes say which of them proceed; its methods
give what is in a field. -/
def countingHost : Host Bool Nat where
  initializer _ _ _ := .done (.ok ())
  method _ receiver _ :=
    .ask .inspect fun state => .done (.ok (state.world.field receiver "balance"))
  getter _ _ := .done (.ok .null)
  setter _ _ _ := .done (.ok ())
  stub _ _ _ := .done (.ok ())
  compile _ context := .done (.ok none, context)
  advice around invocation :=
    .ask (.plain .inspect) fun state => .ask (.plain (.store (state.host + 1))) fun _ =>
      if around then
        .ask (.proceed invocation.context) fun (ended, left) =>
          .done (ended.map some, left.context)
      else .done (.ok none, invocation.context)

/-- The slot of a method. -/
def balanceSlot : Slot Bool := ⟨.root ⟨⟨0⟩, "A", "A"⟩ (.ofClass ⟨0⟩), some (.method false)⟩

/-- A plan for the slot with an observer of each phase that may have one. -/
def countingPlan : Plan Bool where
  target := balanceSlot.target
  joinpoint := .call
  annotations := []
  advices :=
    let advice (phase : Phase) (around : Bool) : Advice Bool :=
      ⟨"count", ⟨phase, .of .method [] "*"⟩, "aspect", ⟨.lowest, 0, .lowest, 0⟩, around⟩
    [advice .before false, advice .around true, advice .afterReturn false, advice .after false]

/-- States with the same instances, which is all that the methods look at. -/
def SameInstances (left right : State Bool Nat) : Prop :=
  left.world.instances = right.world.instances

/-- A state with one instance, and with the plan or with the weaver disabled. -/
def balanceState (enabled : Bool) : State Bool Nat :=
  let world := World.ofConfig { Config.standard with enabled }
  let plans := PlanMemo.empty.remember balanceSlot.target.reference .call ⟨0⟩
  ⟨{ world with
      weaver := { world.weaver with plans }
      plans := #[.fresh countingPlan]
      instances := #[⟨⟨0⟩, Dictionary.empty.insert "balance" (.token 5)⟩] }, 0⟩

/-- The advices of the plan are observers. -/
theorem observes_countingPlan (receiver : Option InstanceId) :
    (countingHost.engine 0).Observes SameInstances receiver countingPlan where
  compile := rfl
  afterThrow := rfl
  around advice member invocation state _ _ := by
    have proceeds : advice.body = true := by
      have only : countingPlan.ofPhase .around = [countingPlan.advices[1]] := rfl
      rw [only, List.mem_singleton] at member
      rw [member]
      rfl
    rw [proceeds]
    -- The two requests of the body come first, and the only use of proceeding last.
    refine ⟨state, state, rfl, rfl, (), { state with host := state.host + 1 }, rfl, rfl,
      .refl _, fun ended left after _ _ => ⟨?_, .refl _⟩⟩
    cases ended with
    | error error => rfl
    | ok value => exact .inr rfl
  others advice member other invocation state _ _ := by
    have waits : advice.body = false := by
      simp only [countingPlan, List.mem_cons, List.not_mem_nil, or_false] at member
      rcases member with rfl | rfl | rfl | rfl
      · rfl
      · exact absurd rfl other
      · rfl
      · rfl
    refine ⟨invocation, { state with host := state.host + 1 }, ?_, .refl _, rfl⟩
    unfold callAdvice
    simp only [Host.engine, countingHost, waits]
    rfl

/-- Which plans there are makes no difference to the instances. -/
theorem overlooks_sameInstances : Overlooks SameInstances where
  -- No use of plans touches the instances.
  symm := Eq.symm
  trans := Eq.trans
  planFor {state} target joinpoint _ := by
    unfold SameInstances World.planFor
    dsimp only
    split <;> rfl
  keepPlan _ _ _ _ := rfl

/-- The method gives what is in its field, and is run once, with the weaver disabled as under four
observers, all of which are called. -/
theorem executeSlot_transparent_counting :
    let execute := (countingHost.engine 0).executeSlot balanceSlot .call (some ⟨0⟩) []
    let record := (countingHost.engine 0).recordSlot balanceSlot .call (some ⟨0⟩) []
    (Alike SameInstances (execute.run (balanceState false)) (execute.run (balanceState true)) ∧
      Option.Rel (fun natural woven => coreRunsOfCalls natural.1.2 = coreRunsOfCalls woven.1.2)
        (record.run (balanceState false)) (record.run (balanceState true))) ∧
      ∃ finish, execute.run (balanceState true) = some (.ok (.token 5), finish) ∧
        finish.host = 4 := by
  have related : SameInstances (balanceState false) (balanceState true) := rfl
  have serves : (PlanState.fresh countingPlan).Serves balanceSlot .call :=
    ⟨rfl, rfl, fun _ held => by contradiction, fun _ held => by contradiction⟩
  have heeds (left right : State Bool Nat) (same : SameInstances left right) :
      Alike SameInstances
        (((countingHost.engine 0).executeNatural balanceSlot .call (some ⟨0⟩) []).run left)
        (((countingHost.engine 0).executeNatural balanceSlot .call (some ⟨0⟩) []).run right) := by
    -- The field is looked up among the instances, which are the same.
    refine .some ⟨?_, same⟩
    show Except.ok (left.world.field ⟨0⟩ "balance") = Except.ok (right.world.field ⟨0⟩ "balance")
    unfold SameInstances at same
    simp only [World.field, World.instance?, same]
  exact ⟨executeSlot_transparent (countingHost.engine 0) overlooks_sameInstances related rfl rfl
    rfl serves (observes_countingPlan _) heeds, _, rfl, rfl⟩

/-- A host whose methods give their codes. -/
def codingHost : Host Nat Unit where
  initializer _ _ _ := .done (.ok ())
  method code _ _ := .done (.ok (.token code))
  getter _ _ := .done (.ok .null)
  setter _ _ _ := .done (.ok ())
  stub _ _ _ := .done (.ok ())
  compile _ context := .done (.ok none, context)
  advice _ invocation := .done (.ok none, invocation.context)

/-- Builds a class with a method, makes an instance, and compiles the plan of the method from
another one. -/
def compileOtherwise : Action Nat Unit (Except ExecutionError (Symbol Nat)) := do
  let _ ← Program.request (Request.perform (.build ((Blueprint.named "A").withMethod "m" (some 1))))
  let _ ← Program.request (Request.perform (.instantiate ⟨0⟩ []))
  let _ ← Program.request (Request.perform (.plan ⟨0⟩ .call "m"))
  Program.request (Request.perform (.compile ⟨1⟩ (some (.method 2))))

/-- A plan that was compiled from another symbol than the natural one of its slot runs that symbol,
although it has no advices at all; with the weaver disabled the natural one is run. -/
theorem not_transparent_compileOtherwise :
    let engine := codingHost.engine 1
    ∃ result start slot found,
      (codingHost.run 2 compileOtherwise).run ⟨.ofConfig .standard, ()⟩ = some (result, start) ∧
      start.world.weaver.config.enabled = true ∧ start.world.Offers slot .call ∧
      (start.world.planFor slot.target .call).2.plan?
        (start.world.planFor slot.target .call).1 = some found ∧
      engine.Observes (fun _ _ => True) (some ⟨0⟩) found.plan ∧
      ¬ Alike (fun _ _ => True)
        ((engine.executeSlot slot .call (some ⟨0⟩) []).run start.disabled)
        ((engine.executeSlot slot .call (some ⟨0⟩) []).run start) := by
  intro engine
  let token (ended : Option (Except ExecutionError Value × State Nat Unit)) : Option Nat :=
    ended.bind fun ended => ended.1.toOption.bind Value.asToken?
  -- Without the weaver the method's own code is run, and with it the one that was compiled.
  have told : ((codingHost.run 2 compileOtherwise).run ⟨.ofConfig .standard, ()⟩).bind (fun ended =>
      let start := ended.2
      (start.world.woven? ⟨0⟩).bind fun woven => (woven.slot? .call "m").bind fun slot =>
        let looked := start.world.planFor slot.target .call
        (looked.2.plan? looked.1).map fun found =>
          (start.world.weaver.config.enabled, found.plan.advices.length,
            token ((engine.executeSlot slot .call (some ⟨0⟩) []).run start.disabled),
            token ((engine.executeSlot slot .call (some ⟨0⟩) []).run start))) =
      some (true, 0, some 1, some 2) := by
    decide +kernel
  obtain ⟨⟨result, start⟩, ran, told⟩ := Option.bind_eq_some_iff.mp told
  obtain ⟨woven, held, told⟩ := Option.bind_eq_some_iff.mp told
  obtain ⟨slot, present, told⟩ := Option.bind_eq_some_iff.mp told
  obtain ⟨found, planned, told⟩ := Option.map_eq_some_iff.mp told
  simp only [Prod.mk.injEq] at told
  obtain ⟨enabled, none, off, on⟩ := told
  have empty : found.plan.advices = [] := List.eq_nil_of_length_eq_zero none
  refine ⟨result, start, slot, found, ran, enabled, ⟨⟨0⟩, _, "m", held, present⟩, planned, ?_, ?_⟩
  · constructor <;> simp [Plan.ofPhase, empty]
  · intro alike
    generalize StateT.run _ start.disabled = left, StateT.run _ start = right at alike off on
    cases alike with
    | none => contradiction
    | some both =>
      simp only [token, Option.bind_some] at off on
      rw [both.1, on] at off
      exact absurd off (by decide)

end Engine

end AspectWeaving
