import AspectWeaving.Proofs.Dictionary
import AspectWeaving.Proofs.Engine.Managing

/-! What is woven and what is compiled stays: no run takes back a woven class, a plan, or what a
plan was compiled and linked to. -/

namespace AspectWeaving

variable {β τ α : Type}

namespace World

/-- A world has all that another one has: its woven classes, under the same class numbers, and its
plans, which may have been compiled and linked meanwhile. -/
structure Extends (after before : World β) : Prop where
  wovenOf : ∀ {id woven}, before.wovenOf? id = some woven → after.wovenOf? id = some woven
  woven : ∀ {id shape}, before.woven? id = some shape → after.woven? id = some shape
  plan : ∀ {id state}, before.plan? id = some state →
    ∃ later, after.plan? id = some later ∧ state.Advances later

variable {before after world : World β}

/-- What leaves plans and woven classes alone takes none of them back. -/
theorem extends_of_same (known : after.weaver.woven = before.weaver.woven)
    (classes : after.wovenClasses = before.wovenClasses) (plans : after.plans = before.plans) :
    after.Extends before where
  -- All look-ups have the answers that they had.
  wovenOf found := by rwa [wovenOf?, known]
  woven found := by rwa [woven?, classes]
  plan {_ state} found := ⟨state, by rwa [plan?, plans], .refl state⟩

/-- Weaving a class takes nothing back. -/
theorem extends_weave (world : World β) (id : ClassId) : (world.weave id).2.Extends world := by
  unfold weave
  split
  · exact extends_of_same rfl rfl rfl
  · next unwoven =>
    dsimp only
    split
    split
    -- A class that cannot be woven leaves no more than remembered targets.
    · exact extends_of_same rfl rfl rfl
    · -- The class that is woven now was not woven before, and its slots come behind all others.
      constructor
      · intro other woven found
        show (world.weaver.woven.insert id _).get? other = some woven
        rw [Dictionary.get?_insert]
        split
        · next same =>
          rw [same] at found
          cases unwoven.symm.trans found
        · exact found
      · intro woven shape found
        exact getElem?_push_of_some _ found
      · intro plan state found
        exact ⟨state, found, .refl state⟩

/-- Enabling an aspect does not touch the woven classes. -/
theorem woven_enable (weaver : Weaver β) (declaration : AspectDeclaration β) :
    (weaver.enable declaration).2.woven = weaver.woven := by
  -- Neither the registry nor the index of advices knows of woven classes.
  unfold Weaver.enable
  dsimp only
  split
  split <;> rfl

/-- Looking a plan up takes nothing back. -/
theorem extends_planFor (world : World β) (target : Target) (joinpoint : Joinpoint) :
    (world.planFor target joinpoint).2.Extends world := by
  unfold planFor
  dsimp only
  split
  · exact extends_of_same rfl rfl rfl
  · -- A plan that is built comes behind those that are there.
    refine ⟨fun found => found, fun found => found, fun {id state} found => ?_⟩
    exact ⟨state, getElem?_push_of_some _ found, .refl state⟩

/-- Whatever a run does takes nothing back. -/
theorem permissive_extends (permitted : Command β → Prop) :
    Permissive permitted fun before after : World β => after.Extends before where
  -- Most steps leave woven classes and plans alone; weaving and planning only add to them.
  tolerant := {
    refl _ := extends_of_same rfl rfl rfl
    trans early late := ⟨fun found => late.wovenOf (early.wovenOf found),
      fun found => late.woven (early.woven found), fun found => by
        obtain ⟨later, held, advances⟩ := early.plan found
        obtain ⟨last, held, further⟩ := late.plan held
        exact ⟨last, held, advances.trans further⟩⟩
    allocate _ _ := extends_of_same rfl rfl rfl
    setField _ _ _ _ := extends_of_same rfl rfl rfl
    pin _ := extends_of_same rfl rfl rfl
    unpin _ := extends_of_same rfl rfl rfl
    keepSymbol _ _ _ found _ :=
      ⟨fun found => found, fun found => found, exists_plan?_keepSymbol found _⟩
    keepCore _ _ found _ _ :=
      ⟨fun found => found, fun found => found, exists_plan?_keepCore found _⟩
    planFor world slot joinpoint _ := extends_planFor world slot.target joinpoint }
  reflect _ _ := extends_of_same rfl rfl rfl
  weave := extends_weave
  enable world declaration := extends_of_same (woven_enable world.weaver declaration) rfl rfl
  disable world id := by
    refine extends_of_same ?_ rfl rfl
    unfold Weaver.disable
    dsimp only
    split <;> rfl
  invalidate _ := extends_of_same rfl rfl rfl
  reset _ := extends_of_same rfl rfl rfl
  release _ := extends_of_same rfl rfl rfl

end World

/-- Whatever a program from outside does takes nothing back. -/
theorem Host.extends_of_run (host : Host β τ) (budget : Nat) {action : Action β τ α}
    {start finish : State β τ} {result : α}
    (ran : (host.run budget action).run start = some (result, finish)) :
    finish.world.Extends start.world :=
  -- No step of a run takes anything back.
  host.within_anyRun (World.permissive_extends _) budget action start ran

end AspectWeaving
