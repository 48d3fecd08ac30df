import AspectWeaving.Proofs.Aspect.Roster
import AspectWeaving.Proofs.Reflection

/-! The memo of plans: as long as a world is sound, looking a plan up gives the plan that would be
built now, and every step on the world that does not decorate a class in use keeps it sound. -/

namespace AspectWeaving

variable {β : Type}

namespace PlanMemo

/-- What a look-up finds was remembered and is not out of date. -/
theorem get?_refreshed {memo : PlanMemo} {reference : String} {joinpoint : Joinpoint} {id : PlanId}
    (found : memo.refreshed.get? reference joinpoint = some id) :
    memo.stale = false ∧ memo.get? reference joinpoint = some id := by
  -- Plans that are out of date are not found.
  unfold refreshed at found
  split at found
  · contradiction
  · next current => exact ⟨by simpa using current, found⟩

/-- Remembering a plan changes what is found for one use of one target. -/
theorem get?_remember (memo : PlanMemo) (reference : String) (joinpoint : Joinpoint) (id : PlanId)
    (asked : String) (use : Joinpoint) :
    (memo.remember reference joinpoint id).get? asked use =
      if (asked, use) = (reference, joinpoint) then some id else memo.get? asked use :=
  Dictionary.get?_insert _ _ _ _

end PlanMemo

/-- A plan depends on what its class and the ancestors of this are decorated with, and on the
advices; it depends on nothing else that a weaver knows. -/
theorem Plan.build_congr {before after : Reflection β} {target : Target}
    (same : after.bundle target.owner.id = before.bundle target.owner.id)
    (index : AdviceIndex β) (joinpoint : Joinpoint) :
    Plan.build after index target joinpoint = Plan.build before index target joinpoint := by
  -- Of all that is known of classes only the bundle is looked at.
  simp only [Plan.build, Surroundings.ofTarget, same]

namespace World

variable {world before after : World β} {target other : Target} {joinpoint : Joinpoint}
  {id : ClassId}

/-- The plan that would be built for a target now. -/
def freshPlan (world : World β) (target : Target) (joinpoint : Joinpoint) : Plan β :=
  Plan.build world.weaver.reflection world.weaver.advices target joinpoint

/-- A look-up gives the plan that would be built now, for the same target, with the same annotations
and with the same advices in every phase. -/
def PlansAfresh (world : World β) (target : Target) (joinpoint : Joinpoint) : Prop :=
  ∃ state,
    (world.planFor target joinpoint).2.plan? (world.planFor target joinpoint).1 = some state ∧
    state.plan = world.freshPlan target joinpoint

/-- A class has been woven. -/
def IsWoven (world : World β) (id : ClassId) : Prop := ∃ woven, world.wovenOf? id = some woven

/-- A target of a woven class that is remembered where it belongs. -/
def Uses (world : World β) (target : Target) : Prop :=
  world.IsWoven target.owner.id ∧ world.weaver.reflection.elements.Knows target

/-- A plan that was made for a target in use is the one that would be built for it now. -/
def Recalls (world : World β) (reference : String) (joinpoint : Joinpoint) (id : PlanId) : Prop :=
  ∃ target state, world.Uses target ∧ target.reference = reference ∧
    world.plan? id = some state ∧ state.plan = world.freshPlan target joinpoint

/-- Everything but the memo of plans is in order: woven classes are live, their slots have
remembered targets, and the index of advices agrees with the registry of aspects. -/
structure Ordered (world : World β) : Prop where
  reflection : world.weaver.reflection.Ordered
  live : ∀ ⦃id⦄, world.IsWoven id →
    ∃ descriptor, world.weaver.reflection.classes.get? id = some descriptor
  offered : ∀ ⦃slot joinpoint⦄, world.Offers slot joinpoint → world.Uses slot.target
  roster : Roster world.weaver.aspects world.weaver.advices

/-- Everything is in order, and unless they are out of date the remembered plans are right. -/
structure Sound (world : World β) : Prop extends Ordered world where
  recalled : world.weaver.plans.stale = false → ∀ ⦃reference joinpoint id⦄,
    world.weaver.plans.get? reference joinpoint = some id → world.Recalls reference joinpoint id

/-- A new world is sound. -/
theorem sound_ofConfig (config : Config) : (ofConfig config : World β).Sound where
  reflection := Reflection.ordered_empty
  live := by
    rintro id ⟨woven, found⟩
    contradiction
  offered := by
    -- There is no woven class that could offer a slot.
    rintro slot joinpoint ⟨id, woven, member, found, _⟩
    simp [ofConfig, woven?] at found
  roster := Roster.empty
  recalled := by
    intro _ reference joinpoint id found
    contradiction

/-- Targets in use are told apart by their references. -/
theorem Ordered.eq_of_reference (ordered : world.Ordered) (uses : world.Uses target)
    (uses' : world.Uses other) (same : target.reference = other.reference) : target = other := by
  obtain ⟨_, _, descriptor, live, named⟩ := ordered.reflection.elements uses.2
  obtain ⟨_, _, descriptor', live', named'⟩ := ordered.reflection.elements uses'.2
  have classes := ordered.reflection.classes
  -- The references of the two classes can be read off those of the targets.
  have owners : target.owner.reference = other.owner.reference :=
    Target.owner_reference_eq (named ▸ classes.reference_closed live)
      (named' ▸ classes.reference_closed live') same
  have ids : target.owner.id = other.owner.id :=
    classes.formed.reference_inj live live' (by rw [named, named', owners])
  -- What is remembered under a class and a reference is one target.
  have known := uses.2
  unfold ElementMemo.Knows at known
  rw [ids, same, uses'.2, Option.some.injEq] at known
  exact known.symm

section LookUp

variable (world) (target) (joinpoint)

/-- A remembered plan is given again, and nothing changes. -/
theorem planFor_of_some {id : PlanId}
    (found : world.weaver.plans.refreshed.get? target.reference joinpoint = some id) :
    world.planFor target joinpoint = (id, world) := by
  simp only [planFor, found]

/-- Without a remembered plan a new one is built, and remembered if plans are kept. -/
theorem planFor_of_none
    (found : world.weaver.plans.refreshed.get? target.reference joinpoint = none) :
    world.planFor target joinpoint =
      (⟨world.plans.size⟩,
        { world with
          plans := world.plans.push (.fresh (world.freshPlan target joinpoint))
          weaver :=
            { world.weaver with
              plans :=
                if world.weaver.config.planCache then
                  world.weaver.plans.refreshed.remember target.reference joinpoint
                    ⟨world.plans.size⟩
                else world.weaver.plans.refreshed } }) := by
  simp only [planFor, found, freshPlan]

/-- After a look-up that has built a plan this one may be remembered; whatever else is remembered was
so before, and was not out of date. -/
theorem remembered_planFor
    (found : world.weaver.plans.refreshed.get? target.reference joinpoint = none)
    {reference : String} {use : Joinpoint} {id : PlanId}
    (remembered : (world.planFor target joinpoint).2.weaver.plans.get? reference use = some id) :
    (reference = target.reference ∧ use = joinpoint ∧ id = ⟨world.plans.size⟩) ∨
      world.weaver.plans.stale = false ∧ world.weaver.plans.get? reference use = some id := by
  rw [planFor_of_none world target joinpoint found] at remembered
  dsimp only at remembered
  split at remembered
  · rw [PlanMemo.get?_remember] at remembered
    split at remembered
    -- The new entry is for what has been looked up.
    · next same =>
      obtain ⟨rfl, rfl⟩ := Prod.mk.inj same
      exact .inl ⟨rfl, rfl, (Option.some.inj remembered).symm⟩
    · exact .inr (PlanMemo.get?_refreshed remembered)
  · exact .inr (PlanMemo.get?_refreshed remembered)

end LookUp

/-- In a sound world a look-up for a target in use gives the plan that would be built now. -/
theorem Sound.plansAfresh (sound : world.Sound) (uses : world.Uses target)
    (joinpoint : Joinpoint) : world.PlansAfresh target joinpoint := by
  unfold PlansAfresh
  -- A plan that is not remembered is built on the spot.
  cases found : world.weaver.plans.refreshed.get? target.reference joinpoint with
  | none =>
    rw [planFor_of_none world target joinpoint found]
    exact ⟨.fresh (world.freshPlan target joinpoint), by simp [plan?], rfl⟩
  | some id =>
    rw [planFor_of_some world target joinpoint found]
    obtain ⟨current, remembered⟩ := PlanMemo.get?_refreshed found
    obtain ⟨made, state, uses', same, held, right⟩ := sound.recalled current remembered
    -- The plan was made for a target of this reference, and there is only one.
    obtain rfl := sound.toOrdered.eq_of_reference uses' uses same
    exact ⟨state, held, right⟩

/-- A plan that is right stays right if its target stays in use and would get the same plan. -/
theorem Recalls.mono {reference : String} {plan : PlanId}
    (recalls : before.Recalls reference joinpoint plan)
    (uses : ∀ {target}, before.Uses target → after.Uses target)
    (kept : ∀ {id state}, before.plan? id = some state →
      ∃ later, after.plan? id = some later ∧ later.plan = state.plan)
    (fresh : ∀ {target}, before.Uses target →
      after.freshPlan target joinpoint = before.freshPlan target joinpoint) :
    after.Recalls reference joinpoint plan := by
  -- The plan was made for the same target, and has only been compiled and linked since.
  obtain ⟨target, state, used, named, held, right⟩ := recalls
  obtain ⟨later, found, same⟩ := kept held
  exact ⟨target, later, uses used, named, found, by rw [same, right, fresh used]⟩

/-- Looking a plan up for a target in use keeps a world sound. -/
theorem Sound.planFor (sound : world.Sound) (uses : world.Uses target) (joinpoint : Joinpoint) :
    (world.planFor target joinpoint).2.Sound := by
  cases found : world.weaver.plans.refreshed.get? target.reference joinpoint with
  | some id =>
    rw [planFor_of_some world target joinpoint found]
    exact sound
  | none =>
    have known {reference : String} {use : Joinpoint} {id : PlanId} :=
      @remembered_planFor β world target joinpoint found reference use id
    rw [planFor_of_none world target joinpoint found] at known ⊢
    refine ⟨⟨sound.reflection, sound.live, sound.offered, sound.roster⟩, ?_⟩
    intro _ reference use id remembered
    rcases known remembered with ⟨rfl, rfl, rfl⟩ | ⟨current, remembered⟩
    -- The new entry is for the plan that has just been built.
    · exact ⟨target, .fresh (world.freshPlan target use), uses, rfl, by simp [plan?], rfl⟩
    -- What was remembered before was right and still is, as the weaver has not changed.
    · refine (sound.recalled current remembered).mono ?_ ?_ ?_
      · exact fun uses => uses
      · exact fun held => ⟨_, getElem?_push_of_some _ held, rfl⟩
      · exact fun _ => rfl

/-- What neither the weaver nor the woven classes are changed by keeps a world sound, if plans are
only compiled and linked. -/
theorem Sound.of_same (sound : before.Sound) (weaver : after.weaver = before.weaver)
    (classes : after.wovenClasses = before.wovenClasses)
    (kept : ∀ {id state}, before.plan? id = some state →
      ∃ later, after.plan? id = some later ∧ later.plan = state.plan) : after.Sound := by
  -- The classes that have been woven, and so the targets in use, are the same.
  have woven (id : ClassId) : after.IsWoven id ↔ before.IsWoven id := by
    simp only [IsWoven, wovenOf?, weaver]
  have uses (target : Target) : after.Uses target ↔ before.Uses target := by
    unfold Uses
    rw [woven, weaver]
  have offers {slot : Slot β} {joinpoint : Joinpoint} (offered : after.Offers slot joinpoint) :
      before.Offers slot joinpoint := by
    simpa only [Offers, woven?, classes] using offered
  refine ⟨⟨weaver ▸ sound.reflection, ?_, ?_, weaver ▸ sound.roster⟩, ?_⟩
  · intro id isWoven
    rw [weaver]
    exact sound.live ((woven id).mp isWoven)
  · exact fun slot joinpoint offered => (uses _).mpr (sound.offered (offers offered))
  · intro current reference joinpoint id remembered
    rw [weaver] at current remembered
    refine (sound.recalled current remembered).mono (uses _).mpr kept fun _ => ?_
    simp only [freshPlan, weaver]

/-- A step on what is known of classes keeps a world sound if it keeps what the woven classes rely
on. -/
theorem Sound.changeReflection (sound : world.Sound) (change : Reflection β → Reflection β)
    (keeps : Reflection.Keeps world.IsWoven world.weaver.reflection
      (change world.weaver.reflection)) : (world.changeReflection change).Sound := by
  -- Targets in use stay remembered, and the bundles of their classes stay the same.
  have uses {target : Target} (used : world.Uses target) :
      (world.changeReflection change).Uses target :=
    ⟨used.1, keeps.lookup? used.1 used.2⟩
  refine ⟨⟨keeps.ordered, keeps.live, ?_, sound.roster⟩, ?_⟩
  · exact fun slot joinpoint offered => uses (sound.offered offered)
  · intro current reference joinpoint id remembered
    refine (sound.recalled current remembered).mono uses (fun held => ⟨_, held, rfl⟩) ?_
    exact fun used => Plan.build_congr (keeps.bundle used.1) _ _

/-- Once its plans are given up, a world in order is sound. -/
theorem Ordered.invalidate (ordered : world.Ordered) :
    (world.changeWeaver Weaver.invalidatePlans).Sound where
  reflection := ordered.reflection
  live := ordered.live
  offered := ordered.offered
  roster := ordered.roster
  -- Stale plans promise nothing.
  recalled current := by contradiction

/-- A decoration leaves everything but the plans in order. -/
theorem Ordered.record (ordered : world.Ordered) (decoration : Decoration β) :
    (world.changeReflection fun reflection => reflection.record decoration).Ordered where
  -- A decoration changes neither classes nor elements.
  reflection := ⟨ordered.reflection.classes, ordered.reflection.elements⟩
  live := ordered.live
  offered := ordered.offered
  roster := ordered.roster

/-- Dropping all plans keeps a world sound. -/
theorem Sound.reset (sound : world.Sound) : (world.changeWeaver Weaver.reset).Sound where
  -- No plan is remembered any more.
  reflection := sound.reflection
  live := sound.live
  offered := sound.offered
  roster := sound.roster
  recalled := by
    intro _ reference joinpoint id found
    contradiction

/-- Enabling an aspect, accepted or refused, keeps a world sound. -/
theorem Sound.enable (sound : world.Sound) (declaration : AspectDeclaration β) :
    Sound { world with weaver := (world.weaver.enable declaration).2 } := by
  have roster := Weaver.roster_enable sound.roster declaration
  unfold Weaver.enable at roster ⊢
  -- The cases are whether the aspect was refused or accepted.
  generalize (AspectRegistry.register declaration world.weaver.config.strictAspectIds).run.run
    world.weaver.aspects = outcome at roster ⊢
  rcases outcome with ⟨refusal | registration, aspects⟩
  · -- A refusal changes no advice, and so no plan.
    exact ⟨⟨sound.reflection, sound.live, sound.offered, roster⟩, sound.recalled⟩
  · -- An accepted one makes all plans stale.
    exact ⟨⟨sound.reflection, sound.live, sound.offered, roster⟩, fun current => by contradiction⟩

/-- Disabling an aspect keeps a world sound, even if there is none to disable. -/
theorem Sound.disable (sound : world.Sound) (id : String) :
    Sound { world with weaver := (world.weaver.disable id).2 } := by
  have roster := Weaver.roster_disable sound.roster id
  unfold Weaver.disable at roster ⊢
  dsimp only at roster ⊢
  by_cases enabled : world.weaver.aspects.aspects.contains id
  · rw [if_pos enabled] at roster ⊢
    exact ⟨⟨sound.reflection, sound.live, sound.offered, roster⟩, fun current => by contradiction⟩
  · rw [if_neg enabled] at roster ⊢
    -- An aspect that is not enabled has no advices in the index that plans could lose.
    have same : world.weaver.advices.unregister id = world.weaver.advices :=
      if_neg (mt sound.roster.known enabled)
    refine ⟨⟨sound.reflection, sound.live, sound.offered, roster⟩, ?_⟩
    intro current reference joinpoint plan remembered
    obtain ⟨target, state, uses, named, held, right⟩ := sound.recalled current remembered
    refine ⟨target, state, uses, named, held, ?_⟩
    rw [right]
    simp only [freshPlan, same]

/-- Adding a woven class for a live class, with remembered targets, keeps a world sound. -/
theorem Sound.addWoven (sound : world.Sound) {shape : WovenClass β}
    (live : ∃ descriptor, world.weaver.reflection.classes.get? id = some descriptor)
    (settled : shape.Settled id world.weaver.reflection.elements) :
    Sound { world with
      wovenClasses := world.wovenClasses.push shape
      weaver :=
        { world.weaver with
          woven := world.weaver.woven.insert id ⟨world.wovenClasses.size⟩ } } := by
  -- One more class has been woven now.
  have woven {asked : ClassId} :
      (∃ held, (world.weaver.woven.insert id ⟨world.wovenClasses.size⟩).get? asked = some held) ↔
        asked = id ∨ world.IsWoven asked := by
    rw [Dictionary.get?_insert]
    by_cases same : asked = id
    · simp [same]
    · simp [same, IsWoven, wovenOf?]
  have uses {target : Target} (used : world.Uses target) :
      (∃ held, (world.weaver.woven.insert id ⟨world.wovenClasses.size⟩).get? target.owner.id =
        some held) ∧ world.weaver.reflection.elements.Knows target :=
    ⟨woven.mpr (.inr used.1), used.2⟩
  refine ⟨⟨sound.reflection, ?_, ?_, sound.roster⟩, ?_⟩
  · intro asked isWoven
    rcases woven.mp isWoven with rfl | earlier
    · exact live
    · exact sound.live earlier
  · rintro slot joinpoint ⟨number, held, member, found, offered⟩
    -- The slot is one of the new class or one of an earlier one.
    by_cases new : number.number = world.wovenClasses.size
    · have same : held = shape := by simpa [woven?, new] using found.symm
      subst same
      obtain ⟨owner, known⟩ := settled offered
      exact ⟨woven.mpr (.inl owner), known⟩
    · refine uses (sound.offered ⟨number, held, member, ?_, offered⟩)
      simpa [woven?, Array.getElem?_push, new] using found
  · intro current reference joinpoint plan remembered
    exact (sound.recalled current remembered).mono uses (fun held => ⟨_, held, rfl⟩) fun _ => rfl

/-- Weaving a class keeps a world sound, whether or not it succeeds. -/
theorem Sound.weave (sound : world.Sound) (id : ClassId) : (world.weave id).2.Sound := by
  unfold World.weave
  cases world.wovenOf? id with
  | some woven => exact sound
  | none =>
    dsimp only
    rcases ran : (Weaver.shape world.weaver.reflection.classes id).run.run
      world.weaver.reflection.elements with ⟨result, elements⟩
    obtain ⟨fits, grows, shaped⟩ := Weaver.leaves_shape _ sound.reflection.elements ran
    -- Resolving the members remembers more targets, even if it fails in the end.
    have resolved :
        (world.changeReflection fun reflection => { reflection with elements }).Sound :=
      sound.changeReflection _
        (Reflection.keeps_elements sound.reflection sound.live fits grows)
    cases result with
    | error fault => exact resolved
    | ok shape =>
      obtain ⟨live, settled⟩ := shaped shape rfl
      exact resolved.addWoven live settled

end World

end AspectWeaving
