import AspectWeaving.Proofs.Engine.Compiling

/-! Which symbols compiling a plan gives: what an advice returns is checked against the joinpoint,
and what it leaves in its context is not. -/

namespace AspectWeaving

variable {β τ : Type}

/-- A turn of a compile advice that has ended: the context that it was given, what it returned, and
the context as it left it. -/
structure CompileTurn (β τ : Type) where
  advice : Advice β
  given : CompileContext β
  start : State β τ
  returned : Except ExecutionError (Option (Symbol β))
  left : CompileContext β
  finish : State β τ

/-- A symbol that the joinpoint of a plan accepts, or none. -/
def Plan.Fits (plan : Plan β) (symbol : Option (Symbol β)) : Prop :=
  ∀ held ∈ symbol, plan.joinpoint.accepts held = true

@[simp] theorem Plan.fits_none (plan : Plan β) : plan.Fits none := by simp [Plan.Fits]

@[simp] theorem Plan.fits_some_iff {plan : Plan β} {symbol : Symbol β} :
    plan.Fits (some symbol) ↔ plan.joinpoint.accepts symbol = true := by simp [Plan.Fits]

/-- The error that names an advice for a symbol that the joinpoint does not accept. -/
def Plan.incompatible (plan : Plan β) (advice : Advice β) (symbol : Symbol β) : ExecutionError :=
  .advice (.incompatibleSymbol advice.key plan.target.label plan.joinpoint.symbolKind symbol.kind)

/-- The symbol that a plan has been compiled to. -/
def World.compiled? (world : World β) (id : PlanId) : Option (Symbol β) :=
  (world.plan? id).bind PlanState.compiled

namespace CompileTurn

/-- The context that the advices behind this one start from, or the error that ends the turns. -/
def verdict (plan : Plan β) (turn : CompileTurn β τ) :
    Except ExecutionError (CompileContext β) :=
  match turn.returned with
  | .error error => .error error
  | .ok none => .ok turn.left
  | .ok (some replacement) =>
    if plan.joinpoint.accepts replacement then .ok { turn.left with symbol := some replacement }
    else .error (plan.incompatible turn.advice replacement)

/-- A turn that returns nothing and leaves a symbol that the joinpoint does not accept. -/
def Smuggles (plan : Plan β) (turn : CompileTurn β τ) : Prop :=
  turn.returned = .ok none ∧ ¬ plan.Fits turn.left.symbol

variable {plan : Plan β} {turn : CompileTurn β τ}

/-- A turn that does not end the others hands on a symbol that fits, unless it smuggles one. -/
theorem fits_iff {context : CompileContext β} (goes : turn.verdict plan = .ok context) :
    plan.Fits context.symbol ↔ ¬ turn.Smuggles plan := by
  -- The cases are those of the verdict: an error, no replacement, or a replacement that is taken.
  unfold verdict at goes
  unfold Smuggles
  split at goes
  · contradiction
  · next silent =>
    obtain rfl := Except.ok.inj goes
    simp [silent]
  · next replacement returned =>
    split at goes
    · next accepted =>
      obtain rfl := Except.ok.inj goes
      simp [returned, accepted]
    · contradiction

/-- A turn that returns a symbol that the joinpoint does not accept ends the others. -/
theorem verdict_of_returned {replacement : Symbol β}
    (returned : turn.returned = .ok (some replacement))
    (foreign : plan.joinpoint.accepts replacement = false) :
    turn.verdict plan = .error (plan.incompatible turn.advice replacement) := by
  -- A replacement of a wrong kind is refused.
  simp [verdict, returned, foreign]

end CompileTurn

namespace Engine

/-- A turn that an advice takes. -/
def Takes (engine : Engine β τ) (turn : CompileTurn β τ) : Prop :=
  (engine.runAction (engine.host.compile turn.advice.body turn.given)).run turn.start =
    some ((turn.returned, turn.left), turn.finish)

/-- The turns of compile advices, each of which starts from what the one before it has handed on,
up to the first that ends them. -/
inductive Turns (engine : Engine β τ) (plan : Plan β) :
    List (Advice β) → CompileContext β → State β τ → List (CompileTurn β τ) →
      Except ExecutionError (Option (Symbol β)) → State β τ → Prop where
  | nil {given start} : Turns engine plan [] given start [] (.ok given.symbol) start
  | ended {turn rest error} (takes : engine.Takes turn)
      (fails : turn.verdict plan = .error error) :
      Turns engine plan (turn.advice :: rest) turn.given turn.start [turn] (.error error)
        turn.finish
  | next {turn rest context turns ended finish} (takes : engine.Takes turn)
      (goes : turn.verdict plan = .ok context)
      (others : Turns engine plan rest context turn.finish turns ended finish) :
      Turns engine plan (turn.advice :: rest) turn.given turn.start (turn :: turns) ended finish

/-- An attempt to compile a plan: the turns of its compile advices, the state at their end, and the
answer. A symbol that the plan is compiled to already, or has been meanwhile, is the answer. -/
inductive Attempts (engine : Engine β τ) (id : PlanId) (state : PlanState β)
    (natural : Option (Symbol β)) (start : State β τ) :
    List (CompileTurn β τ) → State β τ → Except ExecutionError (Symbol β) → State β τ → Prop where
  | recalled {symbol} (held : state.compiled = some symbol) :
      Attempts engine id state natural start [] start (.ok symbol) start
  | failed {turns error between} (fresh : state.compiled = none)
      (turned : engine.Turns state.plan (state.plan.ofPhase .compile)
        (state.plan.compileContext natural) start turns (.error error) between) :
      Attempts engine id state natural start turns between (.error error) between
  | missing {turns between} (fresh : state.compiled = none)
      (turned : engine.Turns state.plan (state.plan.ofPhase .compile)
        (state.plan.compileContext natural) start turns (.ok none) between) :
      Attempts engine id state natural start turns between
        (.error (.weaving (.missingSymbol state.plan.target.label))) between
  | compiled {turns symbol between later} (fresh : state.compiled = none)
      (turned : engine.Turns state.plan (state.plan.ofPhase .compile)
        (state.plan.compileContext natural) start turns (.ok (some symbol)) between)
      (found : between.world.plan? id = some later) :
      Attempts engine id state natural start turns between (.ok (later.compiled.getD symbol))
        (between.keepSymbol id (later.compiled.getD symbol))

variable {engine : Engine β τ} {id : PlanId} {plan : Plan β} {state : PlanState β}
  {advices : List (Advice β)} {context : CompileContext β} {natural : Option (Symbol β)}
  {turns : List (CompileTurn β τ)}
  {ended : Except ExecutionError (Option (Symbol β))} {start between finish : State β τ}

/-- Advices that run in turn take turns that can be listed. -/
theorem CompileTurns.exists_turns
    (ran : engine.CompileTurns plan advices context start ended finish) :
    ∃ turns, engine.Turns plan advices context start turns ended finish := by
  -- The induction is on the turns as they are taken, one for each advice until one ends it.
  induction ran with
  | nil => exact ⟨[], .nil⟩
  | @failed advice rest context start error left finish ran =>
    have takes : engine.Takes ⟨advice, context, start, .error error, left, finish⟩ := ran
    exact ⟨_, .ended takes rfl⟩
  | @kept advice rest context start left between ended finish ran others ih =>
    obtain ⟨turns, later⟩ := ih
    have takes : engine.Takes ⟨advice, context, start, .ok none, left, between⟩ := ran
    exact ⟨_, .next takes rfl later⟩
  | @replaced advice rest context start replacement left between ended finish ran accepted _ ih =>
    obtain ⟨turns, later⟩ := ih
    have takes : engine.Takes ⟨advice, context, start, .ok (some replacement), left, between⟩ :=
      ran
    exact ⟨_, .next takes (by simp [CompileTurn.verdict, accepted]) later⟩
  | @refused advice rest context start replacement left finish ran refused =>
    have takes : engine.Takes ⟨advice, context, start, .ok (some replacement), left, finish⟩ := ran
    exact ⟨_, .ended takes (CompileTurn.verdict_of_returned rfl refused)⟩

namespace Turns

variable {symbol : Option (Symbol β)}

/-- A symbol of another sort that is returned is the end, with an error that names the advice. -/
theorem ended_eq_of_returned
    (turned : engine.Turns plan advices context start turns ended finish)
    {turn : CompileTurn β τ} (listed : turn ∈ turns) {replacement : Symbol β}
    (returned : turn.returned = .ok (some replacement))
    (foreign : plan.joinpoint.accepts replacement = false) :
    ended = .error (plan.incompatible turn.advice replacement) := by
  have verdict := CompileTurn.verdict_of_returned returned foreign
  -- The induction is on the turns; only the last one can have ended them.
  induction turned with
  | nil => cases listed
  | ended _ fails =>
    rw [← List.mem_singleton.mp listed, verdict] at fails
    exact congrArg _ (Except.error.inj fails).symm
  | next _ goes _ ih =>
    rcases List.mem_cons.mp listed with rfl | later
    · rw [verdict] at goes
      contradiction
    · exact ih later

/-- What is left at the end was handed on by the last turn, or given to begin with. -/
theorem handed_on (turned : engine.Turns plan advices context start turns (.ok symbol) finish) :
    (turns = [] ∧ symbol = context.symbol) ∨ ∃ turn left, turns.getLast? = some turn ∧
      turn.verdict plan = .ok left ∧ symbol = left.symbol := by
  -- The induction is on the turns: the last one hands its symbol out of all of them.
  generalize done : Except.ok symbol = ended at turned
  induction turned with
  | nil => exact .inl ⟨rfl, Except.ok.inj done⟩
  | ended => contradiction
  | @next first _ _ _ _ _ _ goes _ ih =>
    right
    rcases ih done with ⟨rfl, same⟩ | ⟨turn, left, last, handed⟩
    · exact ⟨first, _, rfl, goes, same⟩
    · refine ⟨turn, left, ?_, handed⟩
      rw [List.getLast?_cons, last]
      rfl

/-- What is left at the end fits if the natural symbol does, unless the last turn smuggles it. -/
theorem fits_iff (turned : engine.Turns plan advices context start turns (.ok symbol) finish)
    (fitting : plan.Fits context.symbol) :
    plan.Fits symbol ↔ ∀ turn ∈ turns.getLast?, ¬ turn.Smuggles plan := by
  -- What is handed out is the natural symbol, if there was no turn, or that of the last one.
  rcases turned.handed_on with ⟨rfl, rfl⟩ | ⟨turn, left, last, handed, rfl⟩
  · simp [fitting]
  · simp [last, CompileTurn.fits_iff handed]

end Turns

/-- Compiling is an attempt. -/
theorem attempts_of_compile {answer : Except ExecutionError (Symbol β)}
    (found : start.world.plan? id = some state)
    (ran : (engine.compile id natural).run start = some (answer, finish)) :
    ∃ turns between, engine.Attempts id state natural start turns between answer finish := by
  -- The cases are those of compiling: recalled, failed, without any symbol, or compiled.
  obtain ⟨_, _, looked, goes⟩ := run_bind_eq_some.mp ran
  cases (run_findPlan found).symm.trans looked
  cases held : state.compiled with
  | some symbol =>
    rw [held] at goes
    obtain ⟨rfl, rfl⟩ := run_pure_eq_some.mp goes
    exact ⟨_, _, .recalled held⟩
  | none =>
    rw [held] at goes
    obtain ⟨outcome, between, compiles, ends⟩ := run_bind_eq_some.mp goes
    have compiles := compilesTo_of_compileFrom compiles
    cases outcome with
    | error error =>
      obtain ⟨rfl, rfl⟩ := run_pure_eq_some.mp ends
      rcases compiles with failed | ⟨missing, rfl⟩
      · obtain ⟨turns, turned⟩ := failed.exists_turns
        exact ⟨_, _, .failed held turned⟩
      · obtain ⟨turns, turned⟩ := missing.exists_turns
        exact ⟨_, _, .missing held turned⟩
    | ok symbol =>
      obtain ⟨turns, turned⟩ := CompileTurns.exists_turns compiles
      obtain ⟨later, _, looked, keeps⟩ := run_bind_eq_some.mp ends
      obtain ⟨there, rfl⟩ := run_find_eq_some.mp looked
      obtain ⟨_, _, kept, done⟩ := run_bind_eq_some.mp keeps
      obtain ⟨rfl, rfl⟩ := run_pure_eq_some.mp done
      rw [run_modifyWorld_eq_some.mp kept]
      exact ⟨_, _, .compiled held turned there⟩

/-- The symbol that a plan is made to keep is the one that it has been compiled to. -/
theorem compiled?_keepSymbol {later : PlanState β} (found : start.world.plan? id = some later)
    (symbol : Symbol β) : (start.keepSymbol id symbol).world.compiled? id = some symbol := by
  -- The plan is found as it was changed.
  rw [World.compiled?, State.keepSymbol, plan?_modify, found]
  rfl

namespace Attempts

variable {answer : Except ExecutionError (Symbol β)}

/-- A symbol of another sort that an advice returns makes the attempt fail. -/
theorem answer_eq_of_returned
    (attempts : engine.Attempts id state natural start turns between answer finish)
    {turn : CompileTurn β τ} (listed : turn ∈ turns) {replacement : Symbol β}
    (returned : turn.returned = .ok (some replacement))
    (foreign : state.plan.joinpoint.accepts replacement = false) :
    answer = .error (state.plan.incompatible turn.advice replacement) := by
  -- A refusal ends the turns, so that there is nothing to be compiled to.
  cases attempts with
  | recalled => cases listed
  | failed _ turned =>
    have named := turned.ended_eq_of_returned listed returned foreign
    rw [Except.error.inj named]
  | missing _ turned | compiled _ turned =>
    have named := turned.ended_eq_of_returned listed returned foreign
    contradiction

/-- A symbol is the answer that the plan stays compiled to. It fits if what the plan has been
compiled to meanwhile does, unless the last turn smuggles it into a plan that was compiled to
none. -/
theorem fits_iff {symbol : Symbol β} (found : start.world.plan? id = some state)
    (held : state.plan.Fits state.compiled) (fitting : state.plan.Fits natural)
    (attempts : engine.Attempts id state natural start turns between (.ok symbol) finish) :
    finish.world.compiled? id = some symbol ∧
      (state.plan.Fits (some symbol) ↔ state.plan.Fits (between.world.compiled? id) ∧
        ∀ turn ∈ turns.getLast?, turn.Smuggles state.plan →
          between.world.compiled? id ≠ none) := by
  -- A recalled symbol was there before; a new one is handed out by the last turn.
  cases attempts with
  | recalled kept =>
    have known : start.world.compiled? id = some symbol := by
      rw [World.compiled?, found, Option.bind_some, kept]
    rw [kept] at held
    exact ⟨known, iff_of_true held ⟨known ▸ held, by simp⟩⟩
  | @compiled _ handed _ later _ turned there =>
    have known : between.world.compiled? id = later.compiled := by
      rw [World.compiled?, there, Option.bind_some]
    refine ⟨compiled?_keepSymbol there _, ?_⟩
    rw [known]
    -- If an advice has compiled the plan meanwhile, what it was compiled to then is kept.
    cases later.compiled with
    | some other => simp
    | none => simpa using turned.fits_iff fitting

end Attempts

/-- Compiling a plan from no symbol or one that fits. A symbol of another sort that an advice
returns is an error, which names the advice. One that the last advice leaves in its context without
returning any is the answer all the same, and the plan stays compiled to it, unless the plan has
been compiled meanwhile; there is no other way to an answer that does not fit but that it has been
compiled to such a symbol meanwhile. -/
theorem compile_fits_iff {answer : Except ExecutionError (Symbol β)}
    (found : start.world.plan? id = some state) (held : state.plan.Fits state.compiled)
    (fitting : state.plan.Fits natural)
    (ran : (engine.compile id natural).run start = some (answer, finish)) :
    ∃ turns between, engine.Attempts id state natural start turns between answer finish ∧
      (∀ turn ∈ turns, ∀ replacement, turn.returned = .ok (some replacement) →
        ¬ state.plan.Fits (some replacement) →
          answer = .error (state.plan.incompatible turn.advice replacement)) ∧
      ∀ symbol, answer = .ok symbol → finish.world.compiled? id = some symbol ∧
        (state.plan.Fits (some symbol) ↔ state.plan.Fits (between.world.compiled? id) ∧
          ∀ turn ∈ turns.getLast?, turn.Smuggles state.plan →
            between.world.compiled? id ≠ none) := by
  -- Both parts can be told from the turns that compiling takes.
  obtain ⟨turns, between, attempts⟩ := attempts_of_compile found ran
  refine ⟨turns, between, attempts, fun turn listed replacement returned foreign => ?_,
    fun symbol same => ?_⟩
  · exact attempts.answer_eq_of_returned listed returned (by simpa using foreign)
  · subst same
    exact attempts.fits_iff found held fitting

end Engine

/-- A host whose compile advices return one symbol and leave another in their contexts. -/
def handingHost (returned left : Option (Symbol Nat)) : Host Nat Unit :=
  { replacingHost with
    compile := fun _ context => .done (.ok returned, { context with symbol := left }) }

/-- A constructor that is returned for a method makes compiling fail, and the advice is named. -/
theorem Engine.compile_fits_iff_returned :
    let engine := (handingHost (some (.constructor [])) none).engine 0
    let start : State Nat Unit :=
      ⟨{ World.ofConfig .standard with plans := #[.fresh replacedPlan] }, ()⟩
    let named : ExecutionError := .advice (.incompatibleSymbol "compile(method *)=>replace"
      "method A.m" .method .constructor)
    (engine.compile ⟨0⟩ (some (.method 1))).run start = some (.error named, start) ∧
      ∃ turns between, engine.Attempts ⟨0⟩ (.fresh replacedPlan) (some (.method 1)) start turns
        between (.error named) start := by
  -- The advice returns a constructor for a method, which is refused by its name.
  intro engine start named
  have fitting : replacedPlan.Fits (some (.method 1)) := Plan.fits_some_iff.mpr rfl
  have ran : (engine.compile ⟨0⟩ (some (.method 1))).run start = some (.error named, start) := rfl
  obtain ⟨turns, between, attempts, -⟩ :=
    Engine.compile_fits_iff rfl replacedPlan.fits_none fitting ran
  exact ⟨ran, turns, between, attempts⟩

/-- A constructor that is left in the context for a method is what the plan is compiled to. -/
theorem Engine.smuggled_not_refused :
    let engine := (handingHost none (some (.constructor []))).engine 0
    let start : State Nat Unit :=
      ⟨{ World.ofConfig .standard with plans := #[.fresh replacedPlan] }, ()⟩
    replacedPlan.Fits (some (.method 1)) ∧
      (∃ finish, (engine.compile ⟨0⟩ (some (.method 1))).run start =
          some (.ok (.constructor []), finish)) ∧
      ¬ replacedPlan.Fits (some (.constructor [])) := by
  -- The advice writes a constructor into its context and returns nothing.
  intro engine start
  refine ⟨Plan.fits_some_iff.mpr rfl, ⟨_, rfl⟩, ?_⟩
  rw [Plan.fits_some_iff]
  decide

end AspectWeaving
