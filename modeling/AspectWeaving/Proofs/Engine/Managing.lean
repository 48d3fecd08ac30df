import AspectWeaving.Proofs.Engine.Uses

/-! The commands that manage a weaver stay within every relation that allows the few steps which
they are made of; and so does every run, whatever its bodies ask for. -/

namespace AspectWeaving

variable {β τ α : Type} {R : World β → World β → Prop} {permitted : Command β → Prop}

/-- A relation between worlds that allows every step that a run can take: those that using instances
takes, and plans through permitted commands and slots, and those that change what the weaver
knows. -/
structure Permissive (permitted : Command β → Prop) (R : World β → World β → Prop) : Prop where
  tolerant : Tolerant permitted R
  reflect : ∀ world (change : Reflection β → Reflection β), R world (world.changeReflection change)
  weave : ∀ world id, R world (World.weave world id).2
  enable : ∀ world declaration, R world { world with
    weaver := (world.weaver.enable declaration).2 }
  disable : ∀ world id, R world { world with weaver := (world.weaver.disable id).2 }
  invalidate : ∀ world, R world (world.changeWeaver Weaver.invalidatePlans)
  reset : ∀ world, R world (world.changeWeaver Weaver.reset)
  release : ∀ world, R world { world with held := false }

namespace Engine

variable (permissive : Permissive permitted R)
include permissive

/-- What is learnt of classes stays within the relation. -/
theorem within_onReflection (step : Reflection β → α × Reflection β) :
    Within R (onReflection step : Run β τ α) :=
  -- The step is a change of what is known of classes.
  within_onWorld fun world => permissive.reflect world fun _ => (step world.weaver.reflection).2

/-- A decoration stays within the relation. -/
theorem within_record (decoration : Decoration β) :
    Within R (record decoration : Run β τ Unit) :=
  -- A decoration is a change of what is known of classes.
  within_modifyWorld fun world => permissive.reflect world _

/-- Weaving stays within the relation. -/
theorem within_weave (id : ClassId) : Within R (weave id : Run β τ _) :=
  within_onWorld fun world => permissive.weave world id

variable {engine : Engine β τ}
  (performs : ∀ command, permitted command → Within R (engine.perform command))
  (bodies : engine.host.Permitted permitted)
include performs bodies

/-- Trying an application stays within the relation. -/
theorem within_check (element : Element) (application : Application β) :
    Within R (engine.check element application) := by
  -- The check is a body like any other.
  have stubs (code : β) (target : Target) (args : List Value) :
      Within R (engine.runAction (engine.host.stub code target args)) :=
    within_runAction permissive.tolerant performs (bodies.stub code target args)
  refine within_bind permissive.tolerant (within_onReflection permissive _) fun resolved => ?_
  -- The check is run only if the element is there and of its kind.
  cases resolved with
  | error fault => exact within_pure permissive.tolerant _
  | ok target =>
    dsimp only
    split
    · exact within_pure permissive.tolerant _
    · split
      · exact within_pure permissive.tolerant _
      · exact within_bind permissive.tolerant (stubs _ _ _) fun _ =>
          within_pure permissive.tolerant _

/-- Decorating stays within the relation, even if plans are kept. -/
theorem within_annotate (element : Element) (application : Application β) :
    Within R (engine.annotate element application) := by
  -- The check comes first, and a decoration is added only if it accepts.
  refine within_bind permissive.tolerant
    (within_check permissive performs bodies element application) fun checked => ?_
  cases checked with
  | error error => exact within_pure permissive.tolerant _
  | ok decoration =>
    exact within_bind permissive.tolerant (within_record permissive decoration) fun _ =>
      within_pure permissive.tolerant _

/-- Decorating and giving plans up stays within the relation. -/
theorem within_decorated (element : Element) (application : Application β) :
    Within R (engine.decorate element application) := by
  -- Only plans are given up besides.
  refine within_bind permissive.tolerant
    (within_annotate permissive performs bodies element application) fun decorated => ?_
  cases decorated with
  | error error => exact within_pure permissive.tolerant _
  | ok decoration =>
    exact within_bind permissive.tolerant (within_modifyWorld permissive.invalidate) fun _ =>
      within_pure permissive.tolerant _

/-- Building a class stays within the relation. -/
theorem within_built (blueprint : Blueprint β) : Within R (engine.build blueprint) := by
  -- The induction is on the annotations that are still to be tried.
  have checks (id : ClassId) (annotations : List (Place × Application β)) :
      Within R (engine.checkAll id annotations) := by
    induction annotations with
    | nil => exact within_pure permissive.tolerant _
    | cons first rest ih =>
      have checks := within_check permissive performs bodies (first.1.on id) first.2
      refine within_bind permissive.tolerant checks fun checked => ?_
      cases checked with
      | error error => exact within_pure permissive.tolerant _
      | ok decoration =>
        exact within_bind permissive.tolerant ih fun _ => within_pure permissive.tolerant _
  -- The induction is on the decorations that are still to be added.
  have records (decorations : List (Decoration β)) :
      Within R (decorations.forM record : Run β τ PUnit) := by
    induction decorations with
    | nil => exact within_pure permissive.tolerant _
    | cons first rest ih =>
      exact within_bind permissive.tolerant (within_record permissive first) fun _ => ih
  unfold build
  split
  · exact within_pure permissive.tolerant _
  · refine within_bind permissive.tolerant (within_onReflection permissive _) fun registered => ?_
    cases registered with
    | error fault => exact within_pure permissive.tolerant _
    | ok id =>
      refine within_bind permissive.tolerant (checks id _) fun checked => ?_
      -- A rejected class is discarded, an accepted one is decorated and woven.
      cases checked with
      | error error =>
        exact within_bind permissive.tolerant
          (within_modifyWorld fun world => permissive.reflect world _) fun _ =>
            within_pure permissive.tolerant _
      | ok decorations =>
        exact within_bind permissive.tolerant (records decorations) fun _ =>
          within_bind permissive.tolerant (within_weave permissive id) fun _ =>
            within_pure permissive.tolerant _

/-- The commands that manage the weaver stay within the relation. -/
theorem within_managing (command : Command β) (manages : command.Manages) :
    Within R (engine.answer command) := by
  -- Each command has its own lemma; those that use instances are not among them.
  cases command with
  | declare declared =>
    exact within_onReflection permissive fun reflection => reflection.declare declared
  | register definition =>
    exact within_onReflection permissive fun reflection => reflection.registerClass definition
  | discard id =>
    exact within_onReflection permissive fun reflection => ((), reflection.discardClass id)
  | resolve element =>
    exact within_onReflection permissive fun reflection => reflection.resolve element
  | weave id => exact within_weave permissive id
  | build blueprint =>
    exact within_pinning permissive.tolerant (within_built permissive performs bodies blueprint)
  | locate value =>
    exact within_bind permissive.tolerant (within_getWorld permissive.tolerant) fun _ =>
      within_onReflection permissive _
  | check element application =>
    exact within_pinning permissive.tolerant
      (within_check permissive performs bodies element application)
  | annotate element application =>
    exact within_pinning permissive.tolerant
      (within_annotate permissive performs bodies element application)
  | decorate element application =>
    exact within_pinning permissive.tolerant
      (within_decorated permissive performs bodies element application)
  | enable declaration =>
    show Within R (onWorld fun world =>
      ((world.weaver.enable declaration).1,
        { world with weaver := (world.weaver.enable declaration).2 }))
    exact within_onWorld fun world => permissive.enable world declaration
  | disable id =>
    show Within R (onWorld fun world =>
      ((world.weaver.disable id).1, { world with weaver := (world.weaver.disable id).2 }))
    exact within_onWorld fun world => permissive.disable world id
  | reset =>
    show Within R (modifyWorld fun world => world.changeWeaver Weaver.reset)
    exact within_modifyWorld permissive.reset
  | release =>
    show Within R (modifyWorld fun world => { world with held := false })
    exact within_modifyWorld permissive.release
  | _ => exact manages.elim

end Engine

namespace Host

section Permitted

variable (permissive : Permissive permitted R) {host : Host β τ}
  (bodies : host.Permitted permitted) (budget : Nat)
include permissive bodies

/-- A permitted command stays within the relation if all bodies ask for permitted commands only. -/
theorem within_command (command : Command β) (allowed : permitted command) :
    Engine.Within R (host.perform budget command) :=
  -- The commands that manage the weaver are the ones that a tolerant relation does not speak of.
  within_perform permissive.tolerant bodies
    (fun _ performs command _ manages =>
      Engine.within_managing permissive performs bodies command manages)
    budget command allowed

/-- Programs from outside stay within the relation if they and all bodies ask for permitted commands
only. -/
theorem within_permittedRun {action : Action β τ α}
    (asks : action.Asks (Request.Permitted permitted)) : Engine.Within R (host.run budget action) :=
  -- A program from outside is served like a body.
  Engine.within_runAction permissive.tolerant
    (fun command allowed => within_command permissive bodies budget command allowed) asks

end Permitted

section Any

variable (permissive : Permissive (fun _ => True) R) (host : Host β τ) (budget : Nat)
include permissive

/-- Every command stays within a relation that permits all of them. -/
theorem within_anyCommand (command : Command β) : Engine.Within R (host.perform budget command) :=
  -- No body asks for anything that is not permitted.
  within_command permissive (host.permitted_of_forall fun _ => trivial) budget command trivial

/-- Every program from outside stays within a relation that permits every command. -/
theorem within_anyRun (action : Action β τ α) : Engine.Within R (host.run budget action) :=
  -- Neither does the program itself.
  within_permittedRun permissive (host.permitted_of_forall fun _ => trivial) budget
    (Program.asks_of_forall (fun request => by cases request <;> trivial) action)

end Any

end Host

end AspectWeaving
