import AspectWeaving.Proofs.Engine.Linking
import AspectWeaving.Proofs.Engine.Persistence
import AspectWeaving.Proofs.Plan.Memo

/-! Plans serve the slots that they are looked up for: where plans are compiled and executed through
woven classes only, a plan gets no symbol but the natural symbols of its slots. -/

namespace AspectWeaving

variable {β τ α : Type}

/-- Commands that name no plan: they compile and execute plans through woven classes only. -/
def Command.ThroughSlots (command : Command β) : Prop := command.plan? = none

namespace World

variable {world before after : World β} {id : PlanId} {state : PlanState β} {slot : Slot β}
  {joinpoint : Joinpoint} {symbol : Symbol β} {permitted : Command β → Prop}

/-- A symbol is a natural one for a plan: a slot with the reference and the joinpoint of the plan
has it. -/
def Gives (world : World β) (plan : Plan β) (symbol : Symbol β) : Prop :=
  ∃ slot, world.Offers slot plan.joinpoint ∧ slot.target.reference = plan.target.reference ∧
    slot.natural = some symbol

/-- The slots account for what a plan has come to be: it was made for one of them, and unless it has
compile advices it was compiled and linked to natural symbols. -/
structure AccountsFor (world : World β) (state : PlanState β) : Prop where
  made : ∃ slot, world.Offers slot state.plan.joinpoint ∧ state.plan.target = slot.target
  compiled : state.plan.ofPhase .compile = [] → ∀ {symbol}, state.compiled = some symbol →
    world.Gives state.plan symbol
  linked : state.plan.ofPhase .compile = [] → ∀ {core}, state.linked = some core →
    ∃ symbol, world.Gives state.plan symbol ∧
      state.plan.joinpoint.link symbol state.plan.target.label = .ok core

/-- The slots account for all plans, and plans are remembered for what they were made for, even
those that are out of date. -/
structure Serving (world : World β) : Prop where
  accounts : ∀ {id state}, world.plan? id = some state → world.AccountsFor state
  recalled : ∀ {reference joinpoint id},
    world.weaver.plans.get? reference joinpoint = some id → ∃ state,
      world.plan? id = some state ∧ state.plan.target.reference = reference ∧
        state.plan.joinpoint = joinpoint

/-- A world that has grown from another one, and whose slots account for its plans if those of the
other one did. -/
def KeepsServing (before after : World β) : Prop :=
  after.Extends before ∧ (before.Serving → after.Serving)

/-- A slot that is offered goes on being offered. -/
theorem Extends.offers (grows : after.Extends before) (slot : Slot β) (joinpoint : Joinpoint)
    (offers : before.Offers slot joinpoint) : after.Offers slot joinpoint := by
  -- Woven classes stay, and their slots with them.
  obtain ⟨id, woven, member, found, offered⟩ := offers
  exact ⟨id, woven, member, grows.woven found, offered⟩

/-- A natural symbol stays one where slots do. -/
theorem Gives.mono {plan : Plan β} (gives : before.Gives plan symbol)
    (stays : ∀ slot joinpoint, before.Offers slot joinpoint → after.Offers slot joinpoint) :
    after.Gives plan symbol := by
  -- The slot that has it stays.
  obtain ⟨slot, offers, named, given⟩ := gives
  exact ⟨slot, stays _ _ offers, named, given⟩

/-- Slots that are added do not spoil the account of a plan. -/
theorem AccountsFor.mono (accounts : before.AccountsFor state)
    (stays : ∀ slot joinpoint, before.Offers slot joinpoint → after.Offers slot joinpoint) :
    after.AccountsFor state where
  -- Nothing but slots and natural symbols is asked for.
  made := by
    obtain ⟨slot, offers, same⟩ := accounts.made
    exact ⟨slot, stays _ _ offers, same⟩
  compiled plain _ held := (accounts.compiled plain held).mono stays
  linked plain _ held := by
    obtain ⟨symbol, gives, links⟩ := accounts.linked plain held
    exact ⟨symbol, gives.mono stays, links⟩

/-- Plans that stay the same, and are remembered as before, stay accounted for. -/
theorem Serving.of_same (serving : before.Serving) (grows : after.Extends before)
    (plans : after.plans = before.plans)
    (memo : after.weaver.plans.plans = before.weaver.plans.plans) : after.Serving where
  accounts {id state} held := by
    -- The plan is one of before, and there are at least the slots of before.
    rw [plan?, plans] at held
    exact (serving.accounts held).mono grows.offers
  recalled remembered := by
    rw [PlanMemo.get?, memo] at remembered
    obtain ⟨state, held, named, use⟩ := serving.recalled remembered
    exact ⟨state, by rwa [plan?, plans], named, use⟩

/-- A new world has no plans. -/
theorem serving_ofConfig (config : Config) : (ofConfig config : World β).Serving where
  -- So there is nothing to account for, and nothing is remembered.
  accounts held := by simp [ofConfig, plan?] at held
  recalled remembered := by contradiction

/-- A change to one plan leaves all plans accounted for if it leaves this one so. -/
theorem Serving.modify (serving : world.Serving) (found : world.plan? id = some state)
    {change : PlanState β → PlanState β} (same : (change state).plan = state.plan)
    (accounts : world.AccountsFor (change state)) :
    ({ world with plans := world.plans.modify id.number change } : World β).Serving where
  accounts {other kept} held := by
    simp only [plan?, Array.getElem?_modify] at found held
    -- A plan that is found is the one that was changed, or it was there before.
    by_cases changed : id.number = other.number
    · rw [if_pos changed, ← changed, found] at held
      obtain rfl : change state = kept := Option.some.inj held
      exact accounts.mono fun _ _ offers => offers
    · rw [if_neg changed] at held
      exact (serving.accounts held).mono fun _ _ offers => offers
  recalled {_ _ other} remembered := by
    obtain ⟨kept, held, named, use⟩ := serving.recalled remembered
    simp only [plan?, Array.getElem?_modify] at found held ⊢
    -- The change leaves what the plan was made for.
    by_cases changed : id.number = other.number
    · obtain rfl : state = kept := Option.some.inj (found.symm.trans (changed ▸ held))
      exact ⟨change state, by simp [changed, held], same ▸ named, same ▸ use⟩
    · exact ⟨kept, by simp [changed, held], named, use⟩

/-- Keeping a natural symbol for a plan leaves all plans accounted for. -/
theorem Serving.keepSymbol (serving : world.Serving) (found : world.plan? id = some state)
    (gives : state.plan.ofPhase .compile = [] → world.Gives state.plan symbol) :
    (world.keepSymbol id (state.compiled.getD symbol)).Serving := by
  have accounts := serving.accounts found
  refine serving.modify found rfl ⟨accounts.made, fun plain _ held => ?_, accounts.linked⟩
  -- The symbol is the one that was there, or the new one.
  obtain rfl := Option.some.inj held
  cases compiled : state.compiled with
  | none => exact gives plain
  | some symbol => exact accounts.compiled plain compiled

/-- Keeping the core of the symbol that a plan is compiled to leaves all plans accounted for. -/
theorem Serving.keepCore (serving : world.Serving) (found : world.plan? id = some state)
    (compiled : state.compiled = some symbol) {core : Core β}
    (links : state.plan.joinpoint.link symbol state.plan.target.label = .ok core) :
    (world.keepCore id (state.linked.getD core)).Serving := by
  have accounts := serving.accounts found
  refine serving.modify found rfl ⟨accounts.made, accounts.compiled, fun plain _ held => ?_⟩
  -- The core is the one that was there, or that of the symbol.
  obtain rfl := Option.some.inj held
  cases linked : state.linked with
  | none => exact ⟨symbol, accounts.compiled plain compiled, links⟩
  | some core => exact accounts.linked plain linked

/-- Looking the plan of a slot up leaves all plans accounted for. -/
theorem Serving.planFor (serving : world.Serving) (offers : world.Offers slot joinpoint) :
    (world.planFor slot.target joinpoint).2.Serving := by
  have grows := extends_planFor world slot.target joinpoint
  cases found : world.weaver.plans.refreshed.get? slot.target.reference joinpoint with
  | some id =>
    rw [planFor_of_some world _ _ found]
    exact serving
  | none =>
    have known {reference : String} {use : Joinpoint} {id : PlanId} :=
      @remembered_planFor β world slot.target joinpoint found reference use id
    rw [planFor_of_none world _ _ found] at grows known ⊢
    refine ⟨fun {id state} held => ?_, fun {reference use id} remembered => ?_⟩
    · simp only [plan?, Array.getElem?_push] at held
      split at held
      · -- The new plan was made for the slot, and nothing has come of it yet.
        obtain rfl := Option.some.inj held
        refine ⟨⟨slot, grows.offers _ _ offers, rfl⟩, fun _ _ compiled => ?_, fun _ _ linked => ?_⟩
        · cases compiled
        · cases linked
      · exact (serving.accounts held).mono grows.offers
    · rcases known remembered with ⟨rfl, rfl, rfl⟩ | ⟨-, remembered⟩
      · exact ⟨.fresh (world.freshPlan slot.target use), by simp [plan?], rfl, rfl⟩
      · -- What was remembered before is remembered for the same plan, which has stayed.
        obtain ⟨state, held, named, same⟩ := serving.recalled remembered
        exact ⟨state, getElem?_push_of_some _ held, named, same⟩

/-- The plan that a look-up gives was made for the reference and the joinpoint that it is looked up
for. -/
theorem exists_plan?_planFor (world : World β) (target : Target) (joinpoint : Joinpoint)
    (serving : (world.planFor target joinpoint).2.Serving) :
    ∃ state, (world.planFor target joinpoint).2.plan? (world.planFor target joinpoint).1 =
      some state ∧ state.plan.target.reference = target.reference ∧
        state.plan.joinpoint = joinpoint := by
  cases found : world.weaver.plans.refreshed.get? target.reference joinpoint with
  | some id =>
    -- It was remembered for them, or else it has just been built for the target itself.
    rw [planFor_of_some world _ _ found] at serving ⊢
    exact serving.recalled (PlanMemo.get?_refreshed found).2
  | none =>
    rw [planFor_of_none world _ _ found]
    exact ⟨.fresh (world.freshPlan target joinpoint), by simp [plan?], rfl, rfl⟩

/-- A symbol that a plan is used with is a natural one for it, if no command names the plan. -/
theorem Serving.gives_of_hands (serving : world.Serving)
    (handed : world.Hands Command.ThroughSlots id (some symbol))
    (found : world.plan? id = some state) : world.Gives state.plan symbol := by
  cases handed with
  | asked allowed named => cases allowed.symm.trans named
  | @looked before slot joinpoint offers planned own =>
    -- The plan has just been looked up for a slot whose symbol this is.
    have grows := extends_planFor before slot.target joinpoint
    have made := exists_plan?_planFor before slot.target joinpoint
    rw [planned] at made grows
    obtain ⟨kept, held, named, use⟩ := made serving
    obtain rfl := Option.some.inj (held.symm.trans found)
    exact ⟨slot, use ▸ grows.offers _ _ offers, named.symm, own⟩

/-- Whatever a run does whose commands name no plans, the slots account for the plans. -/
theorem permissive_keepsServing :
    Permissive Command.ThroughSlots (KeepsServing : World β → World β → Prop) := by
  have grows := permissive_extends (Command.ThroughSlots : Command β → Prop)
  -- Most steps leave plans alone.
  have same {before after : World β} (grown : after.Extends before)
      (plans : after.plans = before.plans)
      (memo : after.weaver.plans.plans = before.weaver.plans.plans) :
      before.KeepsServing after := ⟨grown, fun serving => serving.of_same grown plans memo⟩
  exact {
    tolerant := {
      refl world := same (grows.tolerant.refl world) rfl rfl
      trans early late :=
        ⟨grows.tolerant.trans early.1 late.1, fun serving => late.2 (early.2 serving)⟩
      allocate world woven := same (grows.tolerant.allocate world woven) rfl rfl
      setField world id name value := same (grows.tolerant.setField world id name value) rfl rfl
      pin world := same (grows.tolerant.pin world) rfl rfl
      unpin world := same (grows.tolerant.unpin world) rfl rfl
      keepSymbol early handed first found natural := by
        refine ⟨grows.tolerant.keepSymbol early.1 handed first found natural, fun serving =>
          serving.keepSymbol found fun plain => ?_⟩
        -- Without compile advices the plan is still as it was handed over.
        obtain ⟨later, held, advances⟩ := early.1.plan first
        obtain rfl := Option.some.inj (held.symm.trans found)
        obtain ⟨rfl, rfl⟩ := natural (advances.plan ▸ plain)
        exact serving.gives_of_hands handed found
      keepCore early first found compiled links := by
        refine ⟨grows.tolerant.keepCore early.1 first found compiled links, fun serving =>
          serving.keepCore found compiled ?_⟩
        -- The plan has been made for the same as before.
        obtain ⟨later, held, advances⟩ := early.1.plan first
        obtain rfl := Option.some.inj (held.symm.trans found)
        rwa [advances.plan]
      planFor world slot joinpoint offers :=
        ⟨grows.tolerant.planFor world slot joinpoint offers, fun serving =>
          serving.planFor offers⟩ }
    reflect world change := same (grows.reflect world change) rfl rfl
    weave world id := by
      refine same (grows.weave world id) ?_ ?_ <;>
      · unfold World.weave
        split
        · rfl
        · dsimp only
          split
          split <;> rfl
    enable world declaration := by
      refine same (grows.enable world declaration) rfl ?_
      unfold Weaver.enable
      dsimp only
      split
      split <;> rfl
    disable world id := by
      refine same (grows.disable world id) rfl ?_
      unfold Weaver.disable
      dsimp only
      split <;> rfl
    invalidate world := same (grows.invalidate world) rfl rfl
    -- Plans that are dropped are there still, and none is remembered.
    reset world := ⟨grows.reset world, fun serving =>
      ⟨fun held => (serving.accounts held).mono fun _ _ offers => offers,
        fun remembered => by contradiction⟩⟩
    release world := same (grows.release world) rfl rfl }

/-- A plan of a slot serves it if no other slot has its reference and it has no compile advices. -/
theorem Serving.serves (serving : world.Serving) (found : world.plan? id = some state)
    (named : state.plan.target.reference = slot.target.reference)
    (use : state.plan.joinpoint = joinpoint)
    (alone : ∀ other, world.Offers other joinpoint →
      other.target.reference = slot.target.reference → other = slot)
    (plain : state.plan.ofPhase .compile = []) : state.Serves slot joinpoint := by
  subst use
  have accounts := serving.accounts found
  -- All slots that the plan can have got something from are this one.
  have target : state.plan.target = slot.target := by
    obtain ⟨other, offers, same⟩ := accounts.made
    rw [same, alone other offers (same ▸ named)]
  have natural {symbol : Symbol β} (gives : world.Gives state.plan symbol) :
      slot.natural = some symbol := by
    obtain ⟨other, offers, same, given⟩ := gives
    rwa [← alone other offers (same.trans named)]
  refine ⟨target, rfl, fun symbol held => natural (accounts.compiled plain held),
    fun core held => ?_⟩
  obtain ⟨symbol, gives, links⟩ := accounts.linked plain held
  simp only [Slot.linked, natural gives, ← target, links]
  rfl

/-- After any run whose commands and bodies use plans through woven classes only, the plan that is
looked up for a slot serves it, if it has no compile advices and no other slot has its reference. A
class that is discarded and registered anew can make another slot with one reference. -/
theorem serves_of_run {host : Host β τ} (bodies : host.Permitted Command.ThroughSlots)
    (config : Config) (budget : Nat) {action : Action β τ α}
    (asks : action.Asks (Request.Permitted Command.ThroughSlots)) {given : τ} {result : α}
    {finish : State β τ}
    (ran : (host.run budget action).run ⟨ofConfig config, given⟩ = some (result, finish))
    (offers : finish.world.Offers slot joinpoint)
    (alone : ∀ other, finish.world.Offers other joinpoint →
      other.target.reference = slot.target.reference → other = slot) :
    ∃ found, (finish.world.planFor slot.target joinpoint).2.plan?
        (finish.world.planFor slot.target joinpoint).1 = some found ∧
      (found.plan.ofPhase .compile = [] → found.Serves slot joinpoint) := by
  have kept := Host.within_permittedRun permissive_keepsServing bodies budget asks _ ran
  -- The look-up itself is one step more.
  have serving := (kept.2 (serving_ofConfig config)).planFor offers
  obtain ⟨found, held, named, use⟩ := exists_plan?_planFor _ slot.target joinpoint serving
  refine ⟨found, held, fun plain => serving.serves held named use (fun other offered => ?_) plain⟩
  -- It weaves no class, and so it brings no slot.
  refine alone other ?_
  obtain ⟨woven, shape, member, there, present⟩ := offered
  refine ⟨woven, shape, member, ?_, present⟩
  revert there
  unfold World.planFor
  dsimp only
  split <;> exact fun there => there

end World

end AspectWeaving
