import AspectWeaving.Engine.Perform

/-! Runs step by step: what a run that has a result has done before. -/

namespace AspectWeaving.Engine

variable {β τ α γ : Type} {start finish : State β τ}

/-- Two runs one after the other meet in a state. -/
theorem run_bind_eq_some {first : Run β τ α} {second : α → Run β τ γ} {last : γ} :
    (first >>= second).run start = some (last, finish) ↔
      ∃ result between, first.run start = some (result, between) ∧
        (second result).run between = some (last, finish) := by
  -- A run has a result only if both parts have one.
  rw [StateT.run_bind]
  exact Option.bind_eq_some_iff.trans Prod.exists

/-- A run whose result is changed is the run itself. -/
theorem run_map_eq_some {run : Run β τ α} {change : α → γ} {last : γ} :
    (change <$> run).run start = some (last, finish) ↔
      ∃ result, run.run start = some (result, finish) ∧ change result = last := by
  -- A change of the result comes behind the run.
  rw [StateT.run_map]
  simp [Option.map_eq_some_iff]

/-- A result alone changes nothing. -/
theorem run_pure_eq_some {result given : α} :
    (pure result : Run β τ α).run start = some (given, finish) ↔
      given = result ∧ finish = start := by
  simp only [StateT.run_pure, Option.pure_def, Option.some.injEq, Prod.mk.injEq, eq_comm]

/-- Looking up finds what is there and changes nothing. -/
theorem run_find_eq_some {lookUp : World β → Option α} {found : α} :
    (find lookUp).run start = some (found, finish) ↔
      lookUp start.world = some found ∧ finish = start := by
  unfold find
  rw [run_bind_eq_some]
  constructor
  · rintro ⟨world, between, looked, goes⟩
    cases looked
    -- A look-up that finds nothing has no result.
    cases present : lookUp start.world with
    | none =>
      rw [present] at goes
      contradiction
    | some held =>
      rw [present] at goes
      obtain ⟨rfl, rfl⟩ := run_pure_eq_some.mp goes
      exact ⟨rfl, rfl⟩
  · rintro ⟨present, rfl⟩
    refine ⟨finish.world, finish, rfl, ?_⟩
    rw [present]
    exact run_pure_eq_some.mpr ⟨rfl, rfl⟩

/-- A step on the world leaves the host's state alone. -/
theorem run_onWorld_eq_some {step : World β → α × World β} {result : α} :
    (onWorld step).run start = some (result, finish) ↔
      step start.world = (result, finish.world) ∧ finish.host = start.host := by
  -- The step gives the result together with the next world.
  show some ((step start.world).1, (⟨(step start.world).2, start.host⟩ : State β τ)) = _ ↔ _
  obtain ⟨world, host⟩ := finish
  simp only [Option.some.injEq, State.mk.injEq, Prod.ext_iff, eq_comm, and_assoc]

/-- A change of the world leaves the host's state alone. -/
theorem run_modifyWorld_eq_some {change : World β → World β} {result : Unit} :
    (modifyWorld change).run start = some (result, finish) ↔
      finish = { start with world := change start.world } := by
  -- Nothing but the world changes.
  show some ((), ({ start with world := change start.world } : State β τ)) = _ ↔ _
  simp only [Option.some.injEq, Prod.mk.injEq, true_and, eq_comm]

/-- Looking at the world changes nothing. -/
theorem run_getWorld_eq_some {world : World β} :
    (getWorld : Run β τ (World β)).run start = some (world, finish) ↔
      world = start.world ∧ finish = start := by
  -- Looking changes nothing.
  show some (start.world, start) = _ ↔ _
  simp only [Option.some.injEq, Prod.mk.injEq, eq_comm]

/-- Without compile advices compiling leaves the natural symbol as it is. -/
theorem compileFrom_eq (engine : Engine β τ) {plan : Plan β}
    (natural : plan.ofPhase .compile = []) (symbol : Option (Symbol β)) :
    engine.compileFrom plan symbol = pure (match symbol with
      | none => .error (.weaving (.missingSymbol plan.target.label))
      | some symbol => .ok symbol) := by
  -- No advice changes the context that starts with the natural symbol.
  unfold compileFrom
  rw [natural]
  cases symbol <;> simp [runCompileAdvices, Plan.compileContext]

/-- A plan that has been compiled keeps the symbol that it was compiled to. -/
theorem exists_compiled_of_compile {engine : Engine β τ} {id : PlanId}
    {natural : Option (Symbol β)} {symbol : Symbol β}
    (ran : (engine.compile id natural).run start = some (.ok symbol, finish)) :
    ∃ state, finish.world.plan? id = some state ∧ state.compiled = some symbol := by
  obtain ⟨first, _, looked, goes⟩ := run_bind_eq_some.mp ran
  obtain ⟨found, rfl⟩ := run_find_eq_some.mp looked
  cases compiled : first.compiled with
  | some kept =>
    rw [compiled] at goes
    obtain ⟨same, rfl⟩ := run_pure_eq_some.mp goes
    cases same
    exact ⟨first, found, compiled⟩
  | none =>
    rw [compiled] at goes
    obtain ⟨outcome, between, _, settles⟩ := run_bind_eq_some.mp goes
    cases outcome with
    | error error =>
      obtain ⟨same, _⟩ := run_pure_eq_some.mp settles
      cases same
    | ok made =>
      -- What is kept is the symbol that was made, or one that was kept meanwhile.
      obtain ⟨state, _, looked, changes⟩ := run_bind_eq_some.mp settles
      obtain ⟨held, rfl⟩ := run_find_eq_some.mp looked
      obtain ⟨_, changed, keeps, ends⟩ := run_bind_eq_some.mp changes
      obtain ⟨same, rfl⟩ := run_pure_eq_some.mp ends
      cases same
      rw [run_modifyWorld_eq_some.mp keeps]
      simp only [World.plan?, Array.getElem?_modify] at held ⊢
      rw [if_pos trivial, held]
      exact ⟨_, rfl, rfl⟩

end AspectWeaving.Engine
