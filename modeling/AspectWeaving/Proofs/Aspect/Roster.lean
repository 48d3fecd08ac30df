import AspectWeaving.Proofs.Advice.Index
import AspectWeaving.Proofs.Aspect.Registration
import AspectWeaving.Proofs.Engine.Managing

/-! The registry of aspects and the index of advices agree in every state of a weaver. -/

namespace AspectWeaving

variable {β τ α : Type}

/-- The index knows enabled aspects only, lists their advices and no others under the keys of each,
and no two advices have one number. -/
structure Roster (registry : AspectRegistry) (index : AdviceIndex β) : Prop where
  known : ∀ {id}, index.byAspect.contains id = true → registry.aspects.contains id = true
  owned : ∀ {id advice}, advice ∈ index.ofAspect id → advice.aspectId = id
  listed : ∀ {key advice}, advice ∈ index.under key ↔
    key ∈ advice.keys ∧ advice ∈ index.ofAspect advice.aspectId
  below : ∀ {id advice}, advice ∈ index.ofAspect id →
    advice.precedence.adviceSeq < registry.nextAdvice
  apart : ∀ {id other x y}, x ∈ index.ofAspect id → y ∈ index.ofAspect other →
    x.precedence.adviceSeq = y.precedence.adviceSeq → x = y
  nodup : ∀ id, (index.ofAspect id).Nodup

namespace Roster

variable {registry after : AspectRegistry} {index : AdviceIndex β}

/-- Without aspects there is nothing to disagree on. -/
theorem empty : Roster AspectRegistry.empty (AdviceIndex.empty : AdviceIndex β) where
  -- There are no aspects and no advices.
  known := by simp [AdviceIndex.empty, Dictionary.contains]
  owned := by simp
  listed := by simp
  below := by simp
  apart := by simp
  nodup := by simp

/-- A refused registration changes nothing that matters. -/
theorem advance (roster : Roster registry index)
    (advanced : AspectRegistry.Advanced registry after) : Roster after index where
  -- Only numbers have been used up, which lets the next one move away from those that are listed.
  known known := by
    rw [advanced.aspects]
    exact roster.known known
  owned := roster.owned
  listed := roster.listed
  below listed := Nat.lt_of_lt_of_le (roster.below listed) advanced.nextAdvice
  apart := roster.apart
  nodup := roster.nodup

/-- What is listed for an aspect after another one was dropped was listed before. -/
theorem mem_ofAspect_unregister {id other : String} {advice : Advice β} :
    advice ∈ (index.unregister id).ofAspect other ↔
      other ≠ id ∧ advice ∈ index.ofAspect other := by
  -- The dropped aspect has nothing left, the others have what they had.
  rw [AdviceIndex.ofAspect_unregister]
  split <;> simp_all

/-- Dropping the advices of an aspect leaves those of the others. -/
theorem unregister (roster : Roster registry index) (id : String) :
    Roster registry (index.unregister id) where
  known known := by
    rw [AdviceIndex.contains_unregister, Bool.and_eq_true] at known
    exact roster.known known.2
  owned listed := roster.owned (mem_ofAspect_unregister.mp listed).2
  listed := by
    intro key advice
    rw [mem_ofAspect_unregister]
    -- The lists under the keys are gone through only if the aspect is known.
    by_cases known : index.byAspect.contains id
    · rw [AdviceIndex.under_unregister known, List.mem_filter, roster.listed, decide_eq_true_eq]
      exact ⟨fun ⟨⟨keyed, listed⟩, other⟩ => ⟨keyed, other, listed⟩,
        fun ⟨keyed, other, listed⟩ => ⟨⟨keyed, listed⟩, other⟩⟩
    · -- An aspect that is not known has no advices to drop.
      have same : index.unregister id = index := if_neg known
      rw [same, roster.listed]
      refine and_congr_right fun _ => ⟨fun listed => ⟨?_, listed⟩, fun ⟨_, listed⟩ => listed⟩
      rintro rfl
      rw [AdviceIndex.ofAspect_of_contains (by simpa using known)] at listed
      simp at listed
  below listed := roster.below (mem_ofAspect_unregister.mp listed).2
  apart first second :=
    roster.apart (mem_ofAspect_unregister.mp first).2 (mem_ofAspect_unregister.mp second).2
  nodup other := by
    rw [AdviceIndex.ofAspect_unregister]
    split
    · exact List.nodup_nil
    · exact roster.nodup other

/-- An aspect whose advices have been dropped can be removed. -/
theorem remove (roster : Roster registry index) {id : String}
    (unknown : index.byAspect.contains id = false) : Roster (registry.remove id) index where
  known {other} known := by
    have enabled := roster.known known
    rw [Dictionary.contains_eq_true] at enabled ⊢
    refine Dictionary.mem_keys_erase.mpr ⟨enabled, ?_⟩
    -- The index does not know the aspect any more.
    rintro rfl
    rw [unknown] at known
    contradiction
  owned := roster.owned
  listed := roster.listed
  below := roster.below
  apart := roster.apart
  nodup := roster.nodup

/-- The advices of a newly enabled aspect join those of the others. -/
theorem install (roster : Roster registry index) {registration : Registration β}
    (registered : AspectRegistry.Registered registry after registration) :
    Roster after (registration.advices.foldl AdviceIndex.register index) := by
  have mem_ofAspect {id : String} {advice : Advice β} :
      advice ∈ (registration.advices.foldl AdviceIndex.register index).ofAspect id ↔
        advice ∈ index.ofAspect id ∨ advice ∈ registration.advices ∧ id = advice.aspectId := by
    rw [AdviceIndex.ofAspect_foldl_register]
    simp
  -- What is listed now was listed before or is new; each claim is shown for both.
  constructor
  case known =>
    intro id known
    rw [AdviceIndex.contains_foldl_register] at known
    rw [registered.aspects, Dictionary.contains_eq_true, Dictionary.mem_keys_insert]
    rcases known with old | ⟨advice, new, rfl⟩
    · exact .inr (Dictionary.contains_eq_true.mp (roster.known old))
    · exact .inl (registered.owned advice new)
  case owned =>
    intro id advice listed
    rcases mem_ofAspect.mp listed with old | ⟨_, rfl⟩
    · exact roster.owned old
    · rfl
  case listed =>
    intro key advice
    rw [AdviceIndex.under_foldl_register, mem_ofAspect, List.mem_append, roster.listed,
      List.mem_filter, decide_eq_true_eq]
    grind
  case below =>
    intro id advice listed
    rcases mem_ofAspect.mp listed with old | ⟨new, _⟩
    · have earlier := roster.below old
      rw [registered.nextAdvice]
      omega
    · exact (registered.adviceSeq_range new).2
  -- Old numbers lie below new ones, and new ones differ among each other.
  case apart =>
    intro id other x y first second same
    rcases mem_ofAspect.mp first with old | ⟨new, _⟩ <;>
      rcases mem_ofAspect.mp second with old' | ⟨new', _⟩
    · exact roster.apart old old' same
    · have earlier := roster.below old
      have later := (registered.adviceSeq_range new').1
      omega
    · have earlier := roster.below old'
      have later := (registered.adviceSeq_range new).1
      omega
    · exact List.inj_on_of_nodup_map registered.nodup_adviceSeqs new new' same
  case nodup =>
    intro id
    rw [AdviceIndex.ofAspect_foldl_register]
    refine (roster.nodup id).append (registered.nodup_adviceSeqs.of_map.filter _) ?_
    intro advice old new
    have earlier := roster.below old
    have later := (registered.adviceSeq_range (List.mem_filter.mp new).1).1
    omega

end Roster

namespace Weaver

/-- The registration that enabling an aspect makes, unless it is refused. -/
def registration? (weaver : Weaver β) (declaration : AspectDeclaration β) :
    Option (Registration β) :=
  ((AspectRegistry.register declaration weaver.config.strictAspectIds).run.run
    weaver.aspects).1.toOption

/-- What enabling and disabling aspects, and anything that leaves aspects and advices alone, makes
of a new weaver; along with the advices that the enabled aspects were enabled with. -/
inductive Reached : Weaver β → Dictionary String (List (Advice β)) → Prop where
  | new (config : Config) : Reached (ofConfig config) Dictionary.empty
  | accept {weaver : Weaver β} {enabled} {declaration : AspectDeclaration β} {registration}
      (reached : Reached weaver enabled)
      (accepted : weaver.registration? declaration = some registration) :
      Reached (weaver.enable declaration).2
        (enabled.insert registration.aspect.id registration.advices)
  | refuse {weaver : Weaver β} {enabled} {declaration : AspectDeclaration β}
      (reached : Reached weaver enabled) (refused : weaver.registration? declaration = none) :
      Reached (weaver.enable declaration).2 enabled
  | disable {weaver : Weaver β} {enabled} (id : String) (reached : Reached weaver enabled) :
      Reached (weaver.disable id).2 (enabled.erase id)
  | other {weaver after : Weaver β} {enabled} (reached : Reached weaver enabled)
      (aspects : after.aspects = weaver.aspects) (advices : after.advices = weaver.advices) :
      Reached after enabled

/-- An accepted aspect joins the enabled ones, and its advices are installed. -/
theorem enable_of_accepted {weaver : Weaver β} {declaration : AspectDeclaration β}
    {registration : Registration β}
    (accepted : weaver.registration? declaration = some registration) :
    ∃ after, AspectRegistry.Registered weaver.aspects after registration ∧
      (weaver.enable declaration).2.aspects = after ∧
      (weaver.enable declaration).2.advices = registration.advices.foldl AdviceIndex.register
        (if registration.replaced then weaver.advices.unregister registration.aspect.id
          else weaver.advices) := by
  unfold registration? at accepted
  unfold enable
  rcases ran : (AspectRegistry.register declaration weaver.config.strictAspectIds).run.run
    weaver.aspects with ⟨result, after⟩
  -- What the registration leaves is known from the registry.
  have left := AspectRegistry.register_run ran
  rw [ran] at accepted
  cases result with
  | error refusal => simp [Except.toOption] at accepted
  | ok accepting =>
    obtain rfl : accepting = registration := by simpa [Except.toOption] using accepted
    exact ⟨after, left, rfl, rfl⟩

/-- A refused aspect leaves the enabled ones and all advices as they are. -/
theorem enable_of_refused {weaver : Weaver β} {declaration : AspectDeclaration β}
    (refused : weaver.registration? declaration = none) :
    AspectRegistry.Advanced weaver.aspects (weaver.enable declaration).2.aspects ∧
      (weaver.enable declaration).2.advices = weaver.advices := by
  -- A refusal leaves what registering has left, and installs nothing.
  unfold registration? at refused
  unfold enable
  rcases ran : (AspectRegistry.register declaration weaver.config.strictAspectIds).run.run
    weaver.aspects with ⟨result, after⟩
  have left := AspectRegistry.register_run ran
  rw [ran] at refused
  cases result with
  | error refusal => exact ⟨left, rfl⟩
  | ok registration => simp [Except.toOption] at refused

/-- Enabling an aspect keeps registry and index in agreement. -/
theorem roster_enable {weaver : Weaver β} (roster : Roster weaver.aspects weaver.advices)
    (declaration : AspectDeclaration β) :
    Roster (weaver.enable declaration).2.aspects (weaver.enable declaration).2.advices := by
  -- A refusal may have used numbers up, but has changed nothing else.
  cases accepted : weaver.registration? declaration with
  | none =>
    obtain ⟨advanced, same⟩ := enable_of_refused accepted
    rw [same]
    exact roster.advance advanced
  | some registration =>
    obtain ⟨after, registered, aspects, advices⟩ := enable_of_accepted accepted
    rw [aspects, advices]
    split
    · -- A replaced aspect is dropped before its successor is installed.
      exact (roster.unregister registration.aspect.id).install registered
    · exact roster.install registered

/-- Disabling an aspect removes it and drops its advices. -/
theorem disable_eq (weaver : Weaver β) (id : String) :
    (weaver.disable id).2.aspects = weaver.aspects.remove id ∧
      (weaver.disable id).2.advices = weaver.advices.unregister id := by
  -- Whether or not the aspect was enabled, these two are the same.
  dsimp only [disable]
  split <;> exact ⟨rfl, rfl⟩

/-- Disabling an aspect keeps registry and index in agreement. -/
theorem roster_disable {weaver : Weaver β} (roster : Roster weaver.aspects weaver.advices)
    (id : String) :
    Roster (weaver.disable id).2.aspects (weaver.disable id).2.advices := by
  -- The advices are dropped first, so that the aspect can be removed.
  have unknown : (weaver.advices.unregister id).byAspect.contains id = false := by
    rw [AdviceIndex.contains_unregister]
    simp
  obtain ⟨aspects, advices⟩ := disable_eq weaver id
  rw [aspects, advices]
  exact (roster.unregister id).remove unknown

variable {weaver : Weaver β} {enabled : Dictionary String (List (Advice β))}

/-- Registry and index agree in every state of a weaver. -/
theorem Reached.roster (reached : weaver.Reached enabled) :
    Roster weaver.aspects weaver.advices := by
  -- The induction is on what the weaver has been through.
  induction reached with
  | new config => exact Roster.empty
  | accept _ _ roster => exact roster_enable roster _
  | refuse _ _ roster => exact roster_enable roster _
  | disable id _ roster => exact roster_disable roster id
  | other _ aspects advices roster => rwa [aspects, advices]

/-- The index has the advices that each enabled aspect was enabled with. -/
theorem Reached.ofAspect_eq (reached : weaver.Reached enabled) (id : String) :
    weaver.aspects.aspects.contains id = enabled.contains id ∧
      weaver.advices.ofAspect id = (enabled.get? id).getD [] := by
  -- The induction is on what the weaver has been through.
  induction reached with
  | new config => exact ⟨rfl, rfl⟩
  | @accept weaver enabled declaration registration reached accepted ih =>
    obtain ⟨after, registered, aspects, advices⟩ := enable_of_accepted accepted
    -- All new advices belong to the new aspect.
    have own : (registration.advices.filter fun advice => id = advice.aspectId) =
        if id = registration.aspect.id then registration.advices else [] := by
      split
      · next same =>
        rw [List.filter_eq_self]
        intro advice mem
        simp [registered.owned advice mem, same]
      · next other =>
        rw [List.filter_eq_nil_iff]
        intro advice mem
        simp [registered.owned advice mem, other]
    rw [aspects, advices, AdviceIndex.ofAspect_foldl_register, own, registered.aspects]
    constructor
    · -- The aspect is known now, and the others are as before.
      have same := ih.1
      simp only [Dictionary.contains, Dictionary.get?_insert] at same ⊢
      split <;> simp_all
    · rw [Dictionary.get?_insert]
      by_cases same : id = registration.aspect.id
      · -- What the aspect had before is gone, if it was enabled.
        subst same
        have replaced := registered.replaced
        split
        · simp [AdviceIndex.ofAspect_unregister]
        · next fresh =>
          rw [ih.1] at replaced
          have absent : enabled.get? registration.aspect.id = none := by
            simpa [Dictionary.contains, fresh] using replaced.symm
          simp [ih.2, absent]
      · rw [if_neg same, if_neg same, List.append_nil]
        split
        · rw [AdviceIndex.ofAspect_unregister, if_neg same, ih.2]
        · exact ih.2
  | @refuse weaver enabled declaration reached refused ih =>
    obtain ⟨advanced, same⟩ := enable_of_refused refused
    rw [same, advanced.aspects]
    exact ih
  | @disable weaver enabled gone reached ih =>
    obtain ⟨aspects, advices⟩ := disable_eq weaver gone
    rw [aspects, advices, AdviceIndex.ofAspect_unregister]
    have same := ih.1
    simp only [AspectRegistry.remove, Dictionary.contains, Dictionary.get?_erase] at same ⊢
    split
    · exact ⟨rfl, rfl⟩
    · exact ⟨same, ih.2⟩
  | other _ aspects advices ih =>
    rw [aspects, advices]
    exact ih

/-- An advice is listed for some aspect exactly if one was enabled with it. -/
theorem Reached.exists_mem_ofAspect (reached : weaver.Reached enabled) {advice : Advice β} :
    (∃ id, advice ∈ weaver.advices.ofAspect id) ↔
      ∃ id advices, enabled.get? id = some advices ∧ advice ∈ advices := by
  -- Under each id there is the list that was enabled, or none.
  refine exists_congr fun id => ?_
  rw [(reached.ofAspect_eq id).2]
  cases enabled.get? id <;> simp

/-- One weaver can come of another. -/
def Leads (before after : World β) : Prop :=
  (∃ enabled, before.weaver.Reached enabled) → ∃ enabled, after.weaver.Reached enabled

/-- What leaves aspects and advices alone leads on. -/
theorem leads_of_same {before after : World β}
    (aspects : after.weaver.aspects = before.weaver.aspects)
    (advices : after.weaver.advices = before.weaver.advices) : Leads before after :=
  -- What a weaver has been led to concerns its aspects and its advices alone.
  fun ⟨enabled, reached⟩ => ⟨enabled, reached.other aspects advices⟩

/-- Enabling an aspect leads on. -/
theorem leads_enable (world : World β) (declaration : AspectDeclaration β) :
    Leads world { world with weaver := (world.weaver.enable declaration).2 } := by
  rintro ⟨enabled, reached⟩
  -- Refused or accepted, this is one of the steps of a weaver.
  cases accepted : world.weaver.registration? declaration with
  | none => exact ⟨_, reached.refuse accepted⟩
  | some registration => exact ⟨_, reached.accept accepted⟩

/-- Weaving leads on. -/
theorem leads_weave (world : World β) (id : ClassId) : Leads world (World.weave world id).2 := by
  -- Weaving remembers a class and targets, whether or not it succeeds.
  unfold World.weave
  split
  · exact leads_of_same rfl rfl
  · dsimp only
    split
    split <;> exact leads_of_same rfl rfl

/-- Using instances and plans leads on. -/
theorem tolerant_leads (permitted : Command β → Prop) :
    Tolerant permitted (Leads : World β → World β → Prop) where
  refl _ reached := reached
  trans first second reached := second (first reached)
  allocate _ _ := leads_of_same rfl rfl
  setField _ _ _ _ := leads_of_same rfl rfl
  pin _ := leads_of_same rfl rfl
  unpin _ := leads_of_same rfl rfl
  keepSymbol _ _ _ _ _ := leads_of_same rfl rfl
  keepCore _ _ _ _ _ := leads_of_same rfl rfl
  planFor world slot joinpoint _ := by
    -- Only the memo of plans and the plans themselves may change.
    unfold World.planFor
    dsimp only
    split <;> exact leads_of_same rfl rfl

/-- Whatever a run does leads on. -/
theorem permissive_leads :
    Permissive (fun _ => True) (Leads : World β → World β → Prop) where
  -- Most steps concern neither aspects nor advices.
  tolerant := tolerant_leads _
  reflect _ _ := leads_of_same rfl rfl
  weave := leads_weave
  enable := leads_enable
  disable _ id := fun ⟨_, reached⟩ => ⟨_, reached.disable id⟩
  invalidate _ := leads_of_same rfl rfl
  reset _ := leads_of_same rfl rfl
  release _ := leads_of_same rfl rfl

/-- However a session goes, its weaver is one that can be reached. -/
theorem reached_of_run (host : Host β τ) (budget : Nat) (action : Action β τ α) (config : Config)
    {state : τ} {result : α} {finish : State β τ}
    (ran : (host.run budget action).run ⟨World.ofConfig config, state⟩ = some (result, finish)) :
    ∃ enabled, finish.world.weaver.Reached enabled := by
  have within : Engine.Within Leads (host.run budget action) :=
    Host.within_anyRun permissive_leads host budget action
  -- A session starts with a new weaver, which is reached.
  exact within _ ran ⟨_, .new config⟩

end Weaver

end AspectWeaving
