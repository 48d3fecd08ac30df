import AspectWeaving.Proofs.Engine.Runs

/-! Running a core: which bodies of the host it runs, on which instance and arguments, and what it
gives. -/

namespace AspectWeaving.Engine

variable {β τ : Type}

/-- Initializing an instance by some constructors, each called on the instance and on the same
arguments once those before it have succeeded; the first error is the end. -/
inductive Initializes (engine : Engine β τ) (receiver : InstanceId) (args : List Value) :
    List β → State β τ → Except ExecutionError Unit → State β τ → Prop where
  | done {state : State β τ} : Initializes engine receiver args [] state (.ok ()) state
  | failed {code : β} {rest : List β} {start finish : State β τ} {error : ExecutionError}
      (ran : (engine.runAction (engine.host.initializer code receiver args)).run start =
        some (.error error, finish)) :
      Initializes engine receiver args (code :: rest) start (.error error) finish
  | next {code : β} {rest : List β} {start between finish : State β τ}
      {outcome : Except ExecutionError Unit}
      (ran : (engine.runAction (engine.host.initializer code receiver args)).run start =
        some (.ok (), between))
      (later : Initializes engine receiver args rest between outcome finish) :
      Initializes engine receiver args (code :: rest) start outcome finish

/-- One run of a core on an instance and arguments. Constructors initialize the instance, which is
the value. The body of a method gives the value itself. A property is a field, or has bodies that
read and write it; writing takes the first argument and gives nothing. -/
inductive RunsCore (engine : Engine β τ) (receiver : InstanceId) (args : List Value) :
    Core β → State β τ → Except ExecutionError Value → State β τ → Prop where
  | constructed {chain start outcome finish}
      (initializes : engine.Initializes receiver args chain start outcome finish) :
      RunsCore engine receiver args (.construct chain) start
        (outcome.map fun _ => .object receiver) finish
  | called {code start ended finish}
      (ran : (engine.runAction (engine.host.method code receiver args)).run start =
        some (ended, finish)) :
      RunsCore engine receiver args (.call code) start ended finish
  | readField {name state} :
      RunsCore engine receiver args (.read (.field name)) state
        (.ok (state.world.field receiver name)) state
  | readBody {code start ended finish}
      (ran : (engine.runAction (engine.host.getter code receiver)).run start =
        some (ended, finish)) :
      RunsCore engine receiver args (.read (.body code)) start ended finish
  | wroteField {name start} :
      RunsCore engine receiver args (.write (.field name)) start (.ok .null)
        { start with world := start.world.setField receiver name (args.headD .null) }
  | wroteBody {code start outcome finish}
      (ran : (engine.runAction (engine.host.setter code receiver (args.headD .null))).run start =
        some (outcome, finish)) :
      RunsCore engine receiver args (.write (.body code)) start (outcome.map fun _ => .null) finish

/-- One run of a core in a context: on the instance and the arguments there. Without an instance no
body is run, and the element of the context is named in the error. -/
inductive RunsIn (engine : Engine β τ) (core : Core β) (context : AdviceContext β) :
    State β τ → Except ExecutionError Value → State β τ → Prop where
  | missing {state} (absent : context.receiver = none) :
      RunsIn engine core context state
        (.error (.weaving (.missingInstance context.target.label))) state
  | ran {receiver start ended finish} (present : context.receiver = some receiver)
      (runs : engine.RunsCore receiver context.args core start ended finish) :
      RunsIn engine core context start ended finish

variable {engine : Engine β τ} {start finish : State β τ}

/-- Running a chain of constructors initializes an instance by them. -/
theorem run_runChain_eq_some {receiver : InstanceId} {args : List Value} {chain : List β}
    {outcome : Except ExecutionError Unit} :
    (engine.runChain receiver args chain).run start = some (outcome, finish) ↔
      engine.Initializes receiver args chain start outcome finish := by
  -- The induction is on the constructors that are still to be called.
  induction chain generalizing start with
  | nil =>
    rw [runChain, run_pure_eq_some]
    -- With no constructor left the instance is as it is.
    constructor
    · rintro ⟨rfl, rfl⟩
      exact .done
    · intro nothing
      cases nothing
      exact ⟨rfl, rfl⟩
  | cons code rest ih =>
    rw [runChain, run_bind_eq_some]
    constructor
    · intro ⟨ended, between, ran, goes⟩
      cases ended with
      | error error =>
        -- The rest is not called after an error.
        obtain ⟨rfl, rfl⟩ := run_pure_eq_some.mp goes
        exact .failed ran
      | ok =>
        exact .next ran (ih.mp goes)
    · intro initializes
      cases initializes with
      | failed ran => exact ⟨_, _, ran, run_pure_eq_some.mpr ⟨rfl, rfl⟩⟩
      | next ran later => exact ⟨_, _, ran, ih.mpr later⟩

/-- Reading a property is running the core that reads it. -/
theorem run_read_eq_some {access : Access β} {receiver : InstanceId} {args : List Value}
    {ended : Except ExecutionError Value} :
    (engine.read access receiver).run start = some (ended, finish) ↔
      engine.RunsCore receiver args (.read access) start ended finish := by
  cases access with
  | field name =>
    -- A field is looked up in the world, which stays as it is.
    show some ((.ok (start.world.field receiver name), start) :
      Except ExecutionError Value × State β τ) = some (ended, finish) ↔ _
    constructor
    · intro same
      cases same
      exact .readField
    · intro runs
      cases runs
      rfl
  | body code =>
    refine ⟨.readBody, fun runs => ?_⟩
    cases runs with
    | readBody ran => exact ran

/-- Writing a property is running the core that writes the first argument to it. -/
theorem run_write_eq_some {access : Access β} {receiver : InstanceId} {args : List Value}
    {ended : Except ExecutionError Value} :
    (∃ outcome, (engine.write access receiver (args.headD .null)).run start =
        some (outcome, finish) ∧ ended = outcome.map fun _ => .null) ↔
      engine.RunsCore receiver args (.write access) start ended finish := by
  cases access with
  | field name =>
    -- A field is changed in the world, which cannot fail.
    have written : (engine.write (.field name) receiver (args.headD .null)).run start =
        some (.ok (), { start with world := start.world.setField receiver name (args.headD .null) })
      := rfl
    constructor
    · rintro ⟨outcome, ran, rfl⟩
      cases written.symm.trans ran
      exact .wroteField
    · intro runs
      cases runs
      exact ⟨_, written, rfl⟩
  | body code =>
    constructor
    · rintro ⟨outcome, ran, rfl⟩
      exact .wroteBody ran
    · intro runs
      cases runs with
      | wroteBody ran => exact ⟨_, ran, rfl⟩

/-- Running a core is one run of it in the context that it is given. -/
theorem run_runCore_eq_some {core : Core β} {context : AdviceContext β}
    {ended : Except ExecutionError Value} :
    (engine.runCore core context).run start = some (ended, finish) ↔
      engine.RunsIn core context start ended finish := by
  unfold runCore
  cases given : context.receiver with
  | none =>
    dsimp only
    rw [run_pure_eq_some]
    constructor
    · rintro ⟨rfl, rfl⟩
      exact .missing given
    · intro runs
      cases runs with
      | missing => exact ⟨rfl, rfl⟩
      | ran present => cases given.symm.trans present
  | some receiver =>
    -- There is one instance to run the core on, and the cases are the cores.
    have one : engine.RunsIn core context start ended finish ↔
        engine.RunsCore receiver context.args core start ended finish := by
      refine ⟨fun runs => ?_, .ran given⟩
      cases runs with
      | missing absent => cases given.symm.trans absent
      | ran present runs =>
        cases given.symm.trans present
        exact runs
    rw [one]
    cases core with
    | construct chain =>
      simp only [run_bind_eq_some, run_pure_eq_some, run_runChain_eq_some]
      constructor
      · rintro ⟨outcome, _, initializes, rfl, rfl⟩
        exact .constructed initializes
      · intro runs
        cases runs with
        | constructed initializes => exact ⟨_, finish, initializes, rfl, rfl⟩
    | call code =>
      refine ⟨.called, fun runs => ?_⟩
      cases runs with
      | called ran => exact ran
    | read access => exact run_read_eq_some
    | write access =>
      rw [← run_write_eq_some, run_bind_eq_some]
      simp only [run_pure_eq_some]
      constructor
      · rintro ⟨outcome, _, ran, rfl, rfl⟩
        exact ⟨outcome, ran, rfl⟩
      · rintro ⟨outcome, ran, rfl⟩
        exact ⟨outcome, finish, ran, rfl, rfl⟩

end AspectWeaving.Engine
