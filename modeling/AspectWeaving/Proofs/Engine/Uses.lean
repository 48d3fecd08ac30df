import AspectWeaving.Proofs.Engine.Within

/-! The commands that use woven classes and plans stay within every tolerant relation. -/

namespace AspectWeaving.Engine

variable {β τ α : Type} {R : World β → World β → Prop} {permitted : Command β → Prop}
  (tolerant : Tolerant permitted R)

include tolerant in
/-- An activity that pins the weaver stays within what it stays within itself. -/
theorem reaches_pinning {activity : Run β τ α} {start : State β τ}
    (active : Reaches R activity { start with world := start.world.pin }) :
    Reaches R (pinning activity) start := by
  -- The pin comes first and is taken off behind the activity.
  refine reaches_bind tolerant (within_modifyWorld (fun world => tolerant.pin world) start)
    fun result between pinned => ?_
  rw [run_modifyWorld_eq_some.mp pinned]
  refine reaches_bind tolerant active fun result between _ => ?_
  exact within_bind tolerant (within_modifyWorld fun world => tolerant.unpin world)
    (fun _ => within_pure tolerant _) between

include tolerant in
/-- An activity stays within the relation whether or not it pins the weaver. -/
theorem within_pinning {activity : Run β τ α} (active : Within R activity) :
    Within R (pinning activity) :=
  -- This is so wherever the activity starts.
  fun _ => reaches_pinning tolerant (active _)

include tolerant in
/-- An activity of a woven class stays within what it stays within itself. -/
theorem reaches_withWeaver {woven : WovenClass β}
    {activity : Run β τ (Except ExecutionError α)} {start : State β τ}
    (active : Reaches R activity { start with world := start.world.pin }) :
    Reaches R (withWeaver woven activity) start := by
  refine reaches_bind tolerant (within_getWorld tolerant start) fun world between looked => ?_
  obtain ⟨rfl, rfl⟩ := run_getWorld_eq_some.mp looked
  -- The class can be used only as long as its weaver is there.
  split
  · exact reaches_pinning tolerant active
  · exact within_pure tolerant _ _

variable {engine : Engine β τ}
  (performs : ∀ command, permitted command → Within R (engine.perform command))
  (bodies : engine.host.Permitted permitted)
include tolerant performs bodies

/-- Running compile advices stays within the relation. -/
theorem within_runCompileAdvices (plan : Plan β) (advices : List (Advice β))
    (context : CompileContext β) : Within R (engine.runCompileAdvices plan advices context) := by
  -- The induction is on the advices that are still to be run.
  induction advices generalizing context with
  | nil => exact within_pure tolerant _
  | cons advice rest ih =>
    refine within_bind tolerant
      (within_runAction tolerant performs (bodies.compile advice.body _)) fun (returned, left) => ?_
    -- An error ends compiling; a replacement must have the right kind.
    rcases returned with error | _ | replacement
    · exact within_pure tolerant _
    · exact ih left
    · dsimp only
      split
      · exact ih { left with symbol := some replacement }
      · exact within_pure tolerant _

section Plans

variable {id : PlanId} {natural : Option (Symbol β)} {start : State β τ}
  (handed : start.world.Hands permitted id natural)
include handed

/-- Compiling a plan that is handed over with a symbol stays within the relation. -/
theorem reaches_compile : Reaches R (engine.compile id natural) start := by
  refine reaches_bind tolerant (within_find tolerant _ start) fun first seen looked => ?_
  obtain ⟨found, rfl⟩ := run_find_eq_some.mp looked
  -- A plan is compiled at most once.
  cases first.compiled with
  | some symbol => exact within_pure tolerant _ _
  | none =>
    -- Compiling itself changes nothing but what the bodies of advices change.
    have compiles : Within R (engine.compileFrom first.plan natural) := by
      refine within_bind tolerant
        (within_runCompileAdvices tolerant performs bodies _ _ _) fun outcome => ?_
      rcases outcome with error | _ | symbol <;> exact within_pure tolerant _
    refine reaches_bind tolerant (compiles _) fun outcome between ran => ?_
    cases outcome with
    | error error => exact within_pure tolerant _ _
    | ok symbol =>
      refine reaches_bind tolerant (within_find tolerant _ between) fun state now looked => ?_
      obtain ⟨held, rfl⟩ := run_find_eq_some.mp looked
      refine reaches_bind tolerant ?_ fun _ after _ => within_pure tolerant _ after
      intro _ finish keeps
      rw [run_modifyWorld_eq_some.mp keeps]
      refine tolerant.keepSymbol (compiles _ ran) handed found held fun plain => ?_
      -- Where there are no advices the natural symbol is what comes of it, at once.
      rw [compileFrom_eq engine plain] at ran
      obtain ⟨same, rfl⟩ := run_pure_eq_some.mp ran
      cases natural with
      | none => cases same
      | some given =>
        cases same
        exact ⟨rfl, rfl⟩

/-- Linking a plan that is handed over with a symbol stays within the relation. -/
theorem reaches_link : Reaches R (engine.link id natural) start := by
  refine reaches_bind tolerant (within_find tolerant _ start) fun first seen looked => ?_
  obtain ⟨found, rfl⟩ := run_find_eq_some.mp looked
  -- A plan is linked at most once.
  cases first.linked with
  | some core => exact within_pure tolerant _ _
  | none =>
    have compiles := reaches_compile tolerant performs bodies handed
    refine reaches_bind tolerant compiles fun outcome between ran => ?_
    cases outcome with
    | error error => exact within_pure tolerant _ _
    | ok symbol =>
      dsimp only
      split
      · exact within_pure tolerant _ _
      · next core links =>
        refine reaches_bind tolerant (within_find tolerant _ between) fun state now looked => ?_
        obtain ⟨held, rfl⟩ := run_find_eq_some.mp looked
        refine reaches_bind tolerant ?_ fun _ after _ => within_pure tolerant _ after
        intro _ finish keeps
        rw [run_modifyWorld_eq_some.mp keeps]
        -- The core is that of the symbol which is kept by now.
        obtain ⟨kept, there, compiled⟩ := exists_compiled_of_compile ran
        obtain rfl := Option.some.inj (there.symm.trans held)
        exact tolerant.keepCore (compiles ran) found held compiled links

/-- Executing a plan that is handed over with a symbol stays within the relation. -/
theorem reaches_execute (receiver : Option InstanceId) (args : List Value) :
    Reaches R (engine.execute id natural receiver args) start := by
  refine reaches_bind tolerant (reaches_link tolerant performs bodies handed)
    fun outcome between _ => ?_
  -- A plan that does not link is not run.
  cases outcome with
  | error error => exact within_pure tolerant _ _
  | ok core =>
    exact within_bind tolerant (within_find tolerant _) (fun _ =>
      within_bind tolerant (withinLayer_runPhases tolerant performs bodies _ core _) fun _ =>
        within_pure tolerant _) _

end Plans

/-- Running a natural symbol stays within the relation. -/
theorem within_executeNatural (slot : Slot β) (joinpoint : Joinpoint)
    (receiver : Option InstanceId) (args : List Value) :
    Within R (engine.executeNatural slot joinpoint receiver args) := by
  unfold executeNatural
  -- There may be nothing to run, or it may not be of the right kind.
  split
  · exact within_pure tolerant _
  · split
    · exact within_pure tolerant _
    · exact within_runCore tolerant performs bodies _ _

/-- Using a slot that a woven class offers stays within the relation. -/
theorem reaches_executeSlot {slot : Slot β} {joinpoint : Joinpoint}
    (receiver : Option InstanceId) (args : List Value) {start : State β τ}
    (offers : start.world.Offers slot joinpoint) :
    Reaches R (engine.executeSlot slot joinpoint receiver args) start := by
  refine reaches_bind tolerant (within_getWorld tolerant start) fun world between looked => ?_
  obtain ⟨rfl, rfl⟩ := run_getWorld_eq_some.mp looked
  -- With weaving a plan is looked up and executed; without, the natural symbol is run.
  split
  · refine reaches_bind tolerant ?_ fun id between planned => ?_
    · -- This is the one step that changes the memo of plans.
      intro id finish planned
      have planned := (run_onWorld_eq_some.mp planned).1
      have reached := tolerant.planFor _ slot joinpoint offers
      rwa [planned] at reached
    · exact reaches_execute tolerant performs bodies
        (.looked offers (run_onWorld_eq_some.mp planned).1 rfl) _ _
  · exact within_executeNatural tolerant performs bodies _ _ _ _ _

/-- Making an instance stays within the relation. -/
theorem within_instantiate (id : WovenId) (args : List Value) :
    Within R (engine.instantiate id args) := by
  intro start
  refine reaches_bind tolerant (within_find tolerant _ start) fun woven between found => ?_
  obtain ⟨known, rfl⟩ := run_find_eq_some.mp found
  refine reaches_withWeaver tolerant (reaches_bind tolerant
    (within_onWorld (fun world => tolerant.allocate world id) _) fun receiver made allocated => ?_)
  have allocated := (run_onWorld_eq_some.mp allocated).1
  -- Neither the pin nor the new instance changes the woven classes.
  have offers : made.world.Offers woven.construction .construction := by
    refine ⟨id, woven, "", ?_, rfl⟩
    have same := congrArg (fun pair => pair.2.wovenClasses) allocated
    simp only [World.allocate, World.pin] at same
    simpa [World.woven?, ← same] using known
  refine reaches_bind tolerant
    (reaches_executeSlot tolerant performs bodies _ args offers) fun outcome ended _ => ?_
  split <;> exact within_pure tolerant _ _

/-- Calling a method stays within the relation. -/
theorem within_call (receiver : InstanceId) (method : String) (args : List Value) :
    Within R (engine.call receiver method args) := by
  intro start
  refine reaches_bind tolerant (within_find tolerant _ start) fun woven between found => ?_
  obtain ⟨known, rfl⟩ := run_find_eq_some.mp found
  -- The class of the receiver is the woven class that offers the method.
  obtain ⟨object, _, known⟩ := Option.bind_eq_some_iff.mp known
  cases present : woven.slot? .call method with
  | none => exact within_pure tolerant _ _
  | some slot =>
    exact reaches_withWeaver tolerant (reaches_executeSlot tolerant performs bodies _ args
      ⟨object.woven, woven, method, known, present⟩)

/-- Reading a property stays within the relation. -/
theorem within_get (receiver : InstanceId) (property : String) :
    Within R (engine.get receiver property) := by
  intro start
  refine reaches_bind tolerant (within_find tolerant _ start) fun woven between found => ?_
  obtain ⟨known, rfl⟩ := run_find_eq_some.mp found
  obtain ⟨object, _, known⟩ := Option.bind_eq_some_iff.mp known
  -- A property without a slot is read without any plan.
  cases present : woven.slot? .get property with
  | none =>
    exact within_bind tolerant (within_getWorld tolerant) (fun _ => within_pure tolerant _) _
  | some slot =>
    exact reaches_withWeaver tolerant (reaches_executeSlot tolerant performs bodies _ []
      ⟨object.woven, woven, property, known, present⟩)

/-- Writing a property stays within the relation. -/
theorem within_set (receiver : InstanceId) (property : String) (value : Value) :
    Within R (engine.set receiver property value) := by
  intro start
  refine reaches_bind tolerant (within_find tolerant _ start) fun woven between found => ?_
  obtain ⟨known, rfl⟩ := run_find_eq_some.mp found
  obtain ⟨object, _, known⟩ := Option.bind_eq_some_iff.mp known
  -- A property without a slot is written without any plan.
  cases present : woven.slot? .set property with
  | none =>
    exact within_bind tolerant (within_modifyWorld fun world => tolerant.setField world _ _ _)
      (fun _ => within_pure tolerant _) _
  | some slot =>
    refine reaches_bind tolerant (reaches_withWeaver tolerant
      (reaches_executeSlot tolerant performs bodies _ [value]
        ⟨object.woven, woven, property, known, present⟩)) fun _ between _ => ?_
    exact within_pure tolerant _ between

omit performs bodies in
/-- Looking a plan up stays within the relation. -/
theorem within_planOf (id : WovenId) (joinpoint : Joinpoint) (member : String) :
    Within R (planOf id joinpoint member : Run β τ _) := by
  intro start
  refine reaches_bind tolerant (within_find tolerant _ start) fun woven between found => ?_
  obtain ⟨known, rfl⟩ := run_find_eq_some.mp found
  cases present : woven.slot? joinpoint member with
  | none => exact within_pure tolerant _ _
  | some slot =>
    refine reaches_withWeaver tolerant (reaches_bind tolerant ?_ fun _ between _ =>
      within_pure tolerant _ between)
    -- The look-up happens while the weaver is pinned.
    intro plan finish planned
    have planned := (run_onWorld_eq_some.mp planned).1
    have reached := tolerant.planFor (_ : World β).pin slot joinpoint
      ⟨id, woven, member, known, present⟩
    rwa [planned] at reached

end AspectWeaving.Engine

namespace AspectWeaving

variable {β τ α : Type} {R : World β → World β → Prop} {permitted : Command β → Prop}

/-- Commands that change the weaver or what it knows, rather than use what it has made. -/
def Command.Manages : Command β → Prop
  | .instantiate _ _ | .call _ _ _ | .get _ _ | .set _ _ _ | .setField _ _ _ | .plan _ _ _
  | .compile _ _ | .execute _ _ _ _ | .pin | .unpin => False
  | _ => True

namespace Host

variable (tolerant : Tolerant permitted R) {host : Host β τ}
  (bodies : host.Permitted permitted)
  (manages : ∀ budget,
    (∀ command, permitted command → Engine.Within R (host.perform budget command)) →
      ∀ command, permitted command → command.Manages →
        Engine.Within R ((host.engine budget).answer command))
include tolerant bodies manages

/-- Commands stay within a relation if those that manage the weaver do. -/
theorem within_perform (budget : Nat) (command : Command β) (allowed : permitted command) :
    Engine.Within R (host.perform budget command) := by
  -- The induction is on how deep commands may be nested.
  induction budget generalizing command with
  | zero =>
    intro start result finish ran
    cases ran
  | succ budget performs =>
    show Engine.Within R ((host.engine budget).answer command)
    have uses : (host.engine budget).host.Permitted permitted := bodies
    -- Each command that uses what the weaver has made has its own lemma.
    cases command with
    | instantiate woven args => exact Engine.within_instantiate tolerant performs uses woven args
    | call receiver method args =>
      exact Engine.within_call tolerant performs uses receiver method args
    | get receiver property => exact Engine.within_get tolerant performs uses receiver property
    | set receiver property value =>
      exact Engine.within_set tolerant performs uses receiver property value
    | setField receiver name value =>
      exact Engine.within_modifyWorld fun world => tolerant.setField world receiver name value
    | plan woven joinpoint member => exact Engine.within_planOf tolerant woven joinpoint member
    | compile plan natural =>
      exact fun _ => Engine.reaches_compile tolerant performs uses (.asked allowed rfl)
    | execute plan natural receiver args =>
      exact fun _ =>
        Engine.reaches_execute tolerant performs uses (.asked allowed rfl) receiver args
    | pin => exact Engine.within_modifyWorld fun world => tolerant.pin world
    | unpin => exact Engine.within_modifyWorld fun world => tolerant.unpin world
    | _ => exact manages budget performs _ allowed trivial

/-- Programs from outside stay within a relation if the commands that manage the weaver do. -/
theorem within_run (budget : Nat) {action : Action β τ α}
    (asks : action.Asks (Request.Permitted permitted)) :
    Engine.Within R (host.run budget action) := by
  have performs : ∀ command, permitted command →
      Engine.Within R ((host.engine budget).perform command) :=
    fun command allowed => within_perform tolerant bodies manages budget command allowed
  -- A program from outside is served like a body.
  exact Engine.within_runAction tolerant performs asks

end Host

end AspectWeaving
