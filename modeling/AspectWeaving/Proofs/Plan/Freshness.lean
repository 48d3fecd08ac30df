import AspectWeaving.Proofs.Plan.Memo

/-! Runs keep worlds sound, whatever they do, as long as the checks of annotations leave the classes
that are being built alone; so the memo of plans cannot be noticed. -/

namespace AspectWeaving

variable {β τ α : Type}

namespace World

/-- A class that is live but neither woven nor extended so far, such as one that is being built. -/
structure Unfinished (world : World β) (id : ClassId) : Prop where
  last : world.weaver.reflection.classes.Childless id
  unwoven : ¬ world.IsWoven id

/-- A sound world stays sound. -/
def KeepsSound (before after : World β) : Prop := before.Sound → after.Sound

/-- Using instances and plans keeps worlds sound. -/
theorem tolerant_keepsSound (permitted : Command β → Prop) :
    Tolerant permitted (KeepsSound : World β → World β → Prop) where
  refl _ sound := sound
  trans first second sound := second (first sound)
  allocate _ _ sound := sound.of_same rfl rfl fun held => ⟨_, held, rfl⟩
  setField _ _ _ _ sound := sound.of_same rfl rfl fun held => ⟨_, held, rfl⟩
  pin _ sound := sound.of_same rfl rfl fun held => ⟨_, held, rfl⟩
  unpin _ sound := sound.of_same rfl rfl fun held => ⟨_, held, rfl⟩
  -- Compiling and linking a plan leave what it was built to.
  keepSymbol _ _ _ found _ sound := sound.of_same rfl rfl fun held => by
    obtain ⟨later, there, advanced⟩ := exists_plan?_keepSymbol found _ held
    exact ⟨later, there, advanced.plan⟩
  keepCore _ _ found _ _ sound := sound.of_same rfl rfl fun held => by
    obtain ⟨later, there, advanced⟩ := exists_plan?_keepCore found _ held
    exact ⟨later, there, advanced.plan⟩
  planFor _ slot joinpoint offers sound := sound.planFor (sound.offered offers) joinpoint

/-- A decoration on an unfinished class is seen by no plan. -/
theorem Sound.record {world : World β} (sound : world.Sound) {id : ClassId}
    (unfinished : world.Unfinished id) {decoration : Decoration β}
    (own : decoration.target.owner.id = id) :
    (world.changeReflection fun reflection => reflection.record decoration).Sound :=
  -- No class in use has the decorated one among its ancestors.
  sound.changeReflection _ (Reflection.keeps_record sound.reflection sound.live unfinished.last
    unfinished.unwoven own)

end World

/-- A host whose annotation checks leave the class that they are run on alone: they neither weave
nor extend nor discard it as long as it is not finished. -/
def Host.Spares (host : Host β τ) : Prop :=
  ∀ budget code target args,
    Engine.Within
      (fun before after => before.Sound → before.Unfinished target.owner.id →
        after.Unfinished target.owner.id)
      ((host.engine budget).runAction (host.stub code target args))

/-- The commands that are offered to users: classes come and go by being built, under clean names,
and every decoration of a class that has been built is announced. -/
def Command.Offered : Command β → Prop
  | .register _ | .discard _ | .annotate _ _ => False
  | .build blueprint => ClassTable.CleanName blueprint.definition.name
  | _ => True

namespace Engine

/-- A step on what is known of classes leaves the rest of the world alone. -/
theorem run_onReflection_eq_some {start finish : State β τ}
    {step : Reflection β → α × Reflection β} {result : α} :
    (onReflection step).run start = some (result, finish) ↔
      (step start.world.weaver.reflection).1 = result ∧
        finish = { start with
          world := start.world.changeReflection fun _ =>
            (step start.world.weaver.reflection).2 } := by
  -- The state of the host stays as it is.
  unfold onReflection
  rw [run_onWorld_eq_some, Prod.mk.injEq]
  obtain ⟨world, state⟩ := finish
  simp only [State.mk.injEq, and_assoc, eq_comm]

section Checks

variable {host : Host β τ} {budget : Nat} {start finish : State β τ}
  (performs : ∀ command, command.Offered →
    Within World.KeepsSound (host.perform budget command))
  (bodies : host.Permitted Command.Offered)
include performs bodies

/-- Trying an application keeps a sound world sound and, if the host spares them, unfinished classes
unfinished; the decoration is one of the element's class. -/
theorem check_run {element : Element} {application : Application β}
    {result : Except ExecutionError (Decoration β)}
    (ran : ((host.engine budget).check element application).run start = some (result, finish))
    (sound : start.world.Sound) :
    finish.world.Sound ∧
      (host.Spares → start.world.Unfinished element.owner →
        finish.world.Unfinished element.owner) ∧
      ∀ {decoration}, result = .ok decoration → decoration.target.owner.id = element.owner := by
  -- The element is resolved first; what happens then depends on what it is.
  obtain ⟨resolved, between, looked, goes⟩ := run_bind_eq_some.mp ran
  obtain ⟨named, rfl⟩ := run_onReflection_eq_some.mp looked
  obtain ⟨keeps, owner⟩ := Reflection.keeps_resolve sound.reflection sound.live element
  have sound : World.Sound _ := sound.changeReflection (fun _ => _) keeps
  -- Resolving changes neither the classes nor which of them are woven.
  have unfinished (unfinished : start.world.Unfinished element.owner) :
      World.Unfinished (start.world.changeReflection fun _ =>
        (start.world.weaver.reflection.resolve element).2) element.owner :=
    ⟨unfinished.last, unfinished.unwoven⟩
  cases resolved with
  | error fault =>
    obtain ⟨rfl, rfl⟩ := run_pure_eq_some.mp goes
    exact ⟨sound, fun _ => unfinished, fun same => by contradiction⟩
  | ok target =>
    have owner := owner named
    dsimp only at goes
    split at goes
    · obtain ⟨rfl, rfl⟩ := run_pure_eq_some.mp goes
      exact ⟨sound, fun _ => unfinished, fun same => by contradiction⟩
    · split at goes
      · -- Without a check the application is taken.
        obtain ⟨rfl, rfl⟩ := run_pure_eq_some.mp goes
        refine ⟨sound, fun _ => unfinished, fun same => ?_⟩
        cases same
        exact owner
      · next code _ =>
        obtain ⟨checked, after, stub, ends⟩ := run_bind_eq_some.mp goes
        obtain ⟨rfl, rfl⟩ := run_pure_eq_some.mp ends
        -- The check may do anything that is offered, which keeps the world sound.
        have within : Within World.KeepsSound
            ((host.engine budget).runAction (host.stub code target application.args)) :=
          within_runAction (World.tolerant_keepsSound _) performs
            (bodies.stub code target application.args)
        refine ⟨within _ stub sound, fun spares found => ?_, fun {decoration} same => ?_⟩
        · -- What it must not touch is the class that its target is on.
          have spared := spares budget code target application.args _ stub sound
          rw [owner] at spared
          exact spared (unfinished found)
        · cases checked with
          | error error => contradiction
          | ok =>
            cases same
            exact owner

/-- Trying applications on an unfinished class keeps the world sound and the class unfinished. -/
theorem checkAll_run (spares : host.Spares) {id : ClassId}
    {annotations : List (Place × Application β)}
    {result : Except ExecutionError (List (Decoration β))}
    (ran : ((host.engine budget).checkAll id annotations).run start = some (result, finish))
    (sound : start.world.Sound) (unfinished : start.world.Unfinished id) :
    finish.world.Sound ∧ finish.world.Unfinished id ∧
      ∀ {decorations}, result = .ok decorations →
        ∀ decoration ∈ decorations, decoration.target.owner.id = id := by
  -- The induction is on the applications that are still to be tried.
  induction annotations generalizing start result with
  | nil =>
    obtain ⟨rfl, rfl⟩ := run_pure_eq_some.mp ran
    refine ⟨sound, unfinished, fun {decorations} same => ?_⟩
    cases same
    simp
  | cons first rest ih =>
    obtain ⟨place, application⟩ := first
    -- All places of a blueprint are on the class that is built.
    have owner : (place.on id).owner = id := by cases place <;> rfl
    obtain ⟨checked, between, tried, goes⟩ := run_bind_eq_some.mp ran
    obtain ⟨sound, spared, own⟩ := check_run performs bodies tried sound
    rw [owner] at spared own
    have unfinished := spared spares unfinished
    cases checked with
    | error error =>
      obtain ⟨rfl, rfl⟩ := run_pure_eq_some.mp goes
      exact ⟨sound, unfinished, fun same => by contradiction⟩
    | ok decoration =>
      -- The decorations that are kept are this one and those of the rest.
      obtain ⟨others, after, more, ends⟩ := run_bind_eq_some.mp goes
      obtain ⟨rfl, rfl⟩ := run_pure_eq_some.mp ends
      obtain ⟨sound, unfinished, owned⟩ := ih more sound unfinished
      refine ⟨sound, unfinished, fun {decorations} same => ?_⟩
      cases others with
      | error error => contradiction
      | ok others =>
        cases same
        simpa using ⟨own rfl, owned rfl⟩

omit performs bodies in
/-- Decorating an unfinished class keeps the world sound and the class unfinished. -/
theorem recordAll_run {id : ClassId} {decorations : List (Decoration β)}
    (own : ∀ decoration ∈ decorations, decoration.target.owner.id = id) {result : PUnit}
    (ran : (decorations.forM record : Run β τ PUnit).run start = some (result, finish))
    (sound : start.world.Sound) (unfinished : start.world.Unfinished id) :
    finish.world.Sound := by
  -- The class stays unfinished from one decoration to the next.
  induction decorations generalizing start with
  | nil =>
    obtain ⟨_, rfl⟩ := run_pure_eq_some.mp ran
    exact sound
  | cons decoration rest ih =>
    obtain ⟨_, between, recorded, others⟩ := run_bind_eq_some.mp ran
    obtain rfl := run_modifyWorld_eq_some.mp recorded
    obtain ⟨first, later⟩ := List.forall_mem_cons.mp own
    exact ih later others (sound.record unfinished first) ⟨unfinished.last, unfinished.unwoven⟩

/-- Building a class, accepted or rejected, keeps a sound world sound. -/
theorem within_build (spares : host.Spares) {blueprint : Blueprint β}
    (clean : ClassTable.CleanName blueprint.definition.name) :
    Within World.KeepsSound ((host.engine budget).build blueprint) := by
  intro start result finish ran sound
  unfold build at ran
  split at ran
  · obtain ⟨_, rfl⟩ := run_pure_eq_some.mp ran
    exact sound
  · obtain ⟨registered, between, made, goes⟩ := run_bind_eq_some.mp ran
    obtain ⟨named, rfl⟩ := run_onReflection_eq_some.mp made
    obtain ⟨keeps, fresh⟩ :=
      Reflection.keeps_registerClass sound.reflection sound.live clean
    have sound : World.Sound _ := sound.changeReflection (fun _ => _) keeps
    cases registered with
    | error fault =>
      obtain ⟨_, rfl⟩ := run_pure_eq_some.mp goes
      exact sound
    | ok id =>
      -- The class that has just been registered is not finished, and its checks leave it so.
      obtain ⟨unwoven, last⟩ := fresh named
      obtain ⟨checked, after, tried, ends⟩ := run_bind_eq_some.mp goes
      obtain ⟨sound, unfinished, own⟩ :=
        checkAll_run performs bodies spares tried sound ⟨last, unwoven⟩
      cases checked with
      -- A rejected class is taken out again; nothing in use descends from it.
      | error error =>
        obtain ⟨_, last, discarded, done⟩ := run_bind_eq_some.mp ends
        obtain ⟨_, rfl⟩ := run_pure_eq_some.mp done
        obtain rfl := run_modifyWorld_eq_some.mp discarded
        exact sound.changeReflection (fun reflection => reflection.discardClass id)
          (Reflection.keeps_discardClass sound.reflection sound.live unfinished.last
            unfinished.unwoven)
      -- An accepted one is decorated before any plan can show it.
      | ok decorations =>
        obtain ⟨_, decorated, recorded, weaves⟩ := run_bind_eq_some.mp ends
        have sound := recordAll_run (own rfl) recorded sound unfinished
        obtain ⟨outcome, last, wove, done⟩ := run_bind_eq_some.mp weaves
        obtain ⟨_, rfl⟩ := run_pure_eq_some.mp done
        have same := (run_onWorld_eq_some.mp wove).1
        have woven := sound.weave id
        rwa [same] at woven

/-- Decorating an element keeps a sound world sound, since plans are made anew. -/
theorem within_decorate (element : Element) (application : Application β) :
    Within World.KeepsSound ((host.engine budget).decorate element application) := by
  intro start result finish ran sound
  obtain ⟨annotated, between, annotates, goes⟩ := run_bind_eq_some.mp ran
  obtain ⟨checked, after, tried, records⟩ := run_bind_eq_some.mp annotates
  obtain ⟨sound, _⟩ := check_run performs bodies tried sound
  cases checked with
  | error error =>
    obtain ⟨rfl, rfl⟩ := run_pure_eq_some.mp records
    obtain ⟨_, rfl⟩ := run_pure_eq_some.mp goes
    exact sound
  | ok decoration =>
    obtain ⟨_, recorded, decorates, ends⟩ := run_bind_eq_some.mp records
    obtain ⟨rfl, rfl⟩ := run_pure_eq_some.mp ends
    obtain rfl := run_modifyWorld_eq_some.mp decorates
    obtain ⟨_, given, invalidates, last⟩ := run_bind_eq_some.mp goes
    obtain ⟨_, rfl⟩ := run_pure_eq_some.mp last
    obtain rfl := run_modifyWorld_eq_some.mp invalidates
    -- In between the remembered plans may be wrong, but nobody looks.
    exact (sound.toOrdered.record decoration).invalidate

/-- The offered commands that manage the weaver keep sound worlds sound. -/
theorem within_manage (spares : host.Spares) (command : Command β) (offered : command.Offered)
    (manages : command.Manages) :
    Within World.KeepsSound ((host.engine budget).answer command) := by
  have tolerant : Tolerant Command.Offered (World.KeepsSound : World β → World β → Prop) :=
    World.tolerant_keepsSound _
  -- What a host learns of classes takes nothing from a sound world.
  have learns {γ : Type} (step : Reflection β → γ × Reflection β)
      (keeps : ∀ {world : World β}, world.Sound →
        Reflection.Keeps world.IsWoven world.weaver.reflection
          (step world.weaver.reflection).2) :
      Within World.KeepsSound (onReflection step : Run β τ γ) := by
    intro start result finish ran sound
    obtain ⟨_, rfl⟩ := run_onReflection_eq_some.mp ran
    exact sound.changeReflection (fun _ => _) (keeps sound)
  cases command with
  | declare declared =>
    exact learns (fun reflection => reflection.declare declared) fun sound =>
      Reflection.keeps_declare sound.reflection sound.live declared
  | resolve element =>
    exact learns (fun reflection => reflection.resolve element) fun sound =>
      (Reflection.keeps_resolve sound.reflection sound.live element).1
  | locate value =>
    refine within_bind tolerant (within_getWorld tolerant) fun world => ?_
    exact learns _ fun sound => Reflection.keeps_locate sound.reflection sound.live value _ _
  | weave id =>
    show Within World.KeepsSound (onWorld fun world => world.weave id)
    refine within_onWorld fun world => ?_
    exact fun sound => sound.weave id
  | build blueprint =>
    exact within_pinning tolerant (within_build performs bodies spares offered)
  | check element application =>
    exact within_pinning tolerant fun start result finish ran sound =>
      (check_run performs bodies ran sound).1
  | decorate element application =>
    exact within_pinning tolerant
      (within_decorate performs bodies element application)
  | enable declaration =>
    show Within World.KeepsSound (onWorld fun world =>
      ((world.weaver.enable declaration).1,
        { world with weaver := (world.weaver.enable declaration).2 }))
    refine within_onWorld fun world => ?_
    exact fun sound => sound.enable declaration
  | disable id =>
    show Within World.KeepsSound (onWorld fun world =>
      ((world.weaver.disable id).1, { world with weaver := (world.weaver.disable id).2 }))
    refine within_onWorld fun world => ?_
    exact fun sound => sound.disable id
  | reset =>
    show Within World.KeepsSound (modifyWorld fun world => world.changeWeaver Weaver.reset)
    refine within_modifyWorld fun world => ?_
    exact fun sound => sound.reset
  | release =>
    show Within World.KeepsSound (modifyWorld fun world => { world with held := false })
    refine within_modifyWorld fun world => ?_
    exact fun sound => sound.of_same rfl rfl fun held => ⟨_, held, rfl⟩
  | register | discard | annotate => exact offered.elim
  | _ => exact manages.elim

end Checks

end Engine

/-- Whatever is done with a weaver, in whatever order and however its bodies call back, a look-up of
the plan of a woven slot gives the plan that would be built now, whether plans are kept or not;
provided that the checks of annotations leave classes that are being built alone. -/
theorem World.plansAfresh_of_run {host : Host β τ} (bodies : host.Permitted Command.Offered)
    (spares : host.Spares) (config : Config) (budget : Nat) {action : Action β τ α}
    (asks : action.Asks (Request.Permitted Command.Offered)) {state : τ} {result : α}
    {finish : State β τ}
    (ran : (host.run budget action).run ⟨ofConfig config, state⟩ = some (result, finish))
    {slot : Slot β} {joinpoint : Joinpoint} (offers : finish.world.Offers slot joinpoint) :
    finish.world.PlansAfresh slot.target joinpoint := by
  -- One step lemma for each command gives the run lemma.
  have within : Engine.Within KeepsSound (host.run budget action) :=
    Host.within_run (tolerant_keepsSound _) bodies
      (fun _ performs command offered manages =>
        Engine.within_manage performs bodies spares command offered manages)
      budget asks
  have sound : finish.world.Sound := within _ ran (sound_ofConfig config)
  exact sound.plansAfresh (sound.offered offers) joinpoint

/-- A host whose bodies do nothing, except for the checks of annotations. -/
def Host.checking (check : Action Unit Unit (Except AspectError Unit)) : Host Unit Unit where
  initializer _ _ _ := .done (.ok ())
  method _ _ _ := .done (.ok .null)
  getter _ _ := .done (.ok .null)
  setter _ _ _ := .done (.ok ())
  stub _ _ _ := check
  compile _ context := .done (.ok none, context)
  advice _ invocation := .done (.ok none, invocation.context)

/-- A class with one annotation, which is checked. -/
def Blueprint.marked : Blueprint Unit :=
  (named "A").annotate .whole ⟨⟨⟨"t", "Mark"⟩, .classType, some ()⟩, []⟩

/-- Builds the class, plans what is done when an instance is made, decorates the class once more,
and makes an instance. -/
def decorateAfterPlan : Action Unit Unit (Except ExecutionError InstanceId) := do
  let _ ← Program.request (Request.perform (.build .marked))
  let _ ← Program.request (Request.perform (.plan ⟨0⟩ .construction ""))
  let _ ← Program.request (Request.perform (.decorate (.ofClass ⟨0⟩)
    ⟨⟨⟨"t", "Late"⟩, .classType, none⟩, []⟩))
  Program.request (Request.perform (.instantiate ⟨0⟩ []))

/-- A check that accepts everything and does nothing leaves classes alone, and the plan of a class
that was decorated late is found to be up to date. -/
theorem World.plansAfresh_decorateAfterPlan :
    let host := Host.checking (.done (.ok ()))
    ∃ result finish slot, host.Permitted Command.Offered ∧ host.Spares ∧
      decorateAfterPlan.Asks (Request.Permitted Command.Offered) ∧
      (host.run 1 decorateAfterPlan).run ⟨ofConfig .standard, ()⟩ = some (result, finish) ∧
      finish.world.Offers slot .construction ∧
      finish.world.PlansAfresh slot.target .construction := by
  intro host
  have bodies : host.Permitted Command.Offered := by constructor <;> intros <;> trivial
  have spares : host.Spares := by
    intro budget code target args start result finish ran _ unfinished
    obtain ⟨_, rfl⟩ := Engine.run_pure_eq_some.mp ran
    exact unfinished
  have clean : ClassTable.CleanName Blueprint.marked.definition.name := by decide
  have asks : decorateAfterPlan.Asks (Request.Permitted Command.Offered) :=
    ⟨clean, fun _ => ⟨trivial, fun _ => ⟨trivial, fun _ => ⟨trivial, fun _ => trivial⟩⟩⟩⟩
  -- The run ends, and its first class has been woven.
  have ends : ((host.run 1 decorateAfterPlan).run ⟨ofConfig .standard, ()⟩).isSome = true := by
    decide +kernel
  have weaves : (((host.run 1 decorateAfterPlan).run ⟨ofConfig .standard, ()⟩).bind fun ended =>
      ended.2.world.woven? ⟨0⟩).isSome = true := by
    decide +kernel
  obtain ⟨⟨result, finish⟩, ran⟩ := Option.isSome_iff_exists.mp ends
  rw [ran] at weaves
  obtain ⟨woven, found⟩ := Option.isSome_iff_exists.mp weaves
  have offers : finish.world.Offers woven.construction .construction :=
    ⟨⟨0⟩, woven, "", found, rfl⟩
  exact ⟨result, finish, woven.construction, bodies, spares, asks, ran, offers,
    plansAfresh_of_run bodies spares .standard 1 asks ran offers⟩

/-- A check that weaves the first class and looks up what is done when an instance of it is made. -/
def planEarly : Action Unit Unit (Except AspectError Unit) := do
  let _ ← Program.request (Request.perform (.weave ⟨0⟩))
  let _ ← Program.request (Request.perform (.plan ⟨0⟩ .construction ""))
  return .ok ()

/-- A plan that a check looks up for the class that is being built does not show the annotation that
was checked, although the class bears it in the end. -/
theorem World.not_plansAfresh_planEarly :
    let host := Host.checking planEarly
    let action : Action Unit Unit _ := Program.request (Request.perform (.build Blueprint.marked))
    ∃ result finish slot, host.Permitted Command.Offered ∧
      action.Asks (Request.Permitted Command.Offered) ∧
      (host.run 2 action).run ⟨ofConfig .standard, ()⟩ = some (result, finish) ∧
      finish.world.Offers slot .construction ∧
      ¬ finish.world.PlansAfresh slot.target .construction := by
  intro host action
  have early : planEarly.Asks (Request.Permitted Command.Offered) :=
    ⟨trivial, fun _ => ⟨trivial, fun _ => trivial⟩⟩
  have bodies : host.Permitted Command.Offered := by
    constructor <;> intros <;> first | exact early | trivial
  have clean : ClassTable.CleanName Blueprint.marked.definition.name := by decide
  have ends : ((host.run 2 action).run ⟨ofConfig .standard, ()⟩).isSome = true := by
    decide +kernel
  -- The plan that is looked up shows no annotation, and the one that would be built now shows one.
  have counts : (((host.run 2 action).run ⟨ofConfig .standard, ()⟩).bind fun ended =>
      (ended.2.world.woven? ⟨0⟩).bind fun woven =>
        let target := woven.construction.target
        let looked := ended.2.world.planFor target .construction
        (looked.2.plan? looked.1).map fun state =>
          (state.plan.annotations.length,
            (ended.2.world.freshPlan target .construction).annotations.length)) = some (0, 1) := by
    decide +kernel
  obtain ⟨⟨result, finish⟩, ran⟩ := Option.isSome_iff_exists.mp ends
  rw [ran, Option.bind_some] at counts
  obtain ⟨woven, found, counts⟩ := Option.bind_eq_some_iff.mp counts
  obtain ⟨state, held, counts⟩ := Option.map_eq_some_iff.mp counts
  refine ⟨result, finish, woven.construction, bodies, ⟨clean, fun _ => trivial⟩, ran,
    ⟨⟨0⟩, woven, "", found, rfl⟩, ?_⟩
  rintro ⟨again, held', same⟩
  obtain rfl : state = again := Option.some.inj (held.symm.trans held')
  obtain ⟨shown, borne⟩ := Prod.mk.inj counts
  rw [same, borne] at shown
  exact Nat.one_ne_zero shown

end AspectWeaving
