import AspectWeaving.Proofs.Aspect.History
import AspectWeaving.Proofs.Aspect.Numbers
import Mathlib.Algebra.Ring.Nat

/-! What a weaver has been through, event by event: the numbers that its aspects were given tell in
which order they were accepted, and the ids that were generated have been counted. -/

namespace AspectWeaving

variable {β τ α : Type}

/-- An accepted aspect that asked for an id has it. -/
theorem Registration.Fulfils.id_eq {registration : Registration β}
    {declaration : AspectDeclaration β} (fulfils : registration.Fulfils declaration) {id : String}
    (asked : declaration.askedId? = some id) : registration.aspect.id = id := by
  -- The id is one of the options that the aspect was declared with.
  obtain ⟨⟨options, optional, _, chosen⟩, _⟩ := fulfils
  exact chosen id (by simpa [AspectDeclaration.askedId?, optional] using asked)

namespace AspectEvent

/-- What an aspect declared that was to be enabled. -/
def declaration? : AspectEvent β → Option (AspectDeclaration β)
  | .accepted declaration _ => some declaration
  | .refused declaration => some declaration
  | .disabled _ => none

/-- What the aspects declared that were to be enabled, accepted or refused. -/
def declarations (events : List (AspectEvent β)) : List (AspectDeclaration β) :=
  events.filterMap declaration?

/-- The number of an aspect that was accepted. -/
def seq? : AspectEvent β → Option Nat
  | .accepted _ registration => some registration.aspect.seq
  | _ => none

/-- The numbers of the aspects that were accepted. -/
def seqs (events : List (AspectEvent β)) : List Nat := events.filterMap seq?

end AspectEvent

namespace Weaver

open AspectEvent

/-- What has come of all enabling and disabling of aspects, newest first, whatever else has happened
that leaves aspects and advices alone. -/
inductive Lived : Weaver β → List (AspectEvent β) → Prop where
  | new (config : Config) : Lived (ofConfig config) []
  | enable {weaver : Weaver β} {events} (lived : Lived weaver events)
      (declaration : AspectDeclaration β) :
      Lived (weaver.enable declaration).2 (weaver.outcomeOf declaration :: events)
  | disable {weaver : Weaver β} {events} (lived : Lived weaver events) (id : String) :
      Lived (weaver.disable id).2 (.disabled id :: events)
  | other {weaver after : Weaver β} {events} (lived : Lived weaver events)
      (aspects : after.aspects = weaver.aspects) (advices : after.advices = weaver.advices) :
      Lived after events

variable {weaver : Weaver β} {events : List (AspectEvent β)}

/-- What leaves aspects and advices alone leaves nothing to tell. -/
theorem Told.other {after : Weaver β} (told : weaver.Told events)
    (aspects : after.aspects = weaver.aspects) (advices : after.advices = weaver.advices) :
    after.Told events := by
  -- Nothing is told of a weaver but its aspects and its advices.
  obtain ⟨enabled, reached, tracks⟩ := told.reached
  refine ⟨?_, ⟨enabled, reached.other aspects advices, tracks⟩, ?_, told.fulfilled⟩
  · rw [aspects]
    exact told.aspects
  · rw [advices]
    exact told.once

/-- Everything that a weaver has been through is told. -/
theorem Lived.told (lived : weaver.Lived events) : weaver.Told events := by
  -- The induction is on what the weaver has been through.
  induction lived with
  | new config => exact told_ofConfig config
  | enable _ declaration told => exact told.enable declaration
  | disable _ id told => exact told.disable id
  | other _ aspects advices told => exact told.other aspects advices

/-- A weaver that can be reached has been through something. -/
theorem Reached.exists_lived {enabled : Dictionary String (List (Advice β))}
    (reached : weaver.Reached enabled) : ∃ events, weaver.Lived events := by
  -- The induction is on what the weaver has been through.
  induction reached with
  | new config => exact ⟨[], .new config⟩
  | accept _ _ earlier | refuse _ _ earlier =>
    obtain ⟨events, lived⟩ := earlier
    exact ⟨_, lived.enable _⟩
  | disable id _ earlier =>
    obtain ⟨events, lived⟩ := earlier
    exact ⟨_, lived.disable id⟩
  | other _ aspects advices earlier =>
    obtain ⟨events, lived⟩ := earlier
    exact ⟨events, lived.other aspects advices⟩

/-- However a session goes, its weaver has been through something. -/
theorem exists_lived_of_run (host : Host β τ) (budget : Nat) (action : Action β τ α)
    (config : Config) {state : τ} {result : α} {finish : State β τ}
    (ran : (host.run budget action).run ⟨World.ofConfig config, state⟩ = some (result, finish)) :
    ∃ events, finish.world.weaver.Lived events := by
  -- The events of a run are those of the aspects that it enables and disables.
  obtain ⟨enabled, reached⟩ := reached_of_run host budget action config ran
  exact reached.exists_lived

/-- Enabling keeps the registry that the registration leaves, and answers with its aspect. -/
theorem enable_of_run {declaration : AspectDeclaration β}
    {result : Except RegistrationError (Registration β)} {after : AspectRegistry}
    (ran : (AspectRegistry.register declaration weaver.config.strictAspectIds).run.run
      weaver.aspects = (result, after)) :
    (weaver.enable declaration).1 = result.map Registration.aspect ∧
      (weaver.enable declaration).2.aspects = after ∧
      weaver.registration? declaration = result.toOption := by
  -- Enabling hands on what the registry gives, and what it leaves.
  unfold enable registration?
  rw [ran]
  cases result <;> exact ⟨rfl, rfl, rfl⟩

/-- The numbers of accepted aspects increase with time, and those of the advices of each with their
places; and no more numbers have been taken than aspects were to be enabled and advices declared. -/
structure Clocked (registry : AspectRegistry) (events : List (AspectEvent β)) : Prop where
  below : ∀ seq ∈ seqs events, seq < registry.nextAspect
  rising : (seqs events).Pairwise fun newer older => older < newer
  ordered : ∀ {declaration registration}, .accepted declaration registration ∈ events →
    (registration.advices.map fun advice => advice.precedence.adviceSeq).Pairwise (· < ·)
  aspects : registry.nextAspect ≤ (declarations events).length
  advices : registry.nextAdvice ≤
    ((declarations events).map fun declaration => declaration.advices.length).sum

/-- What a registration leaves of the numbers and of the ids counted, accepted or refused. -/
structure Counts (declaration : AspectDeclaration β) (before after : AspectRegistry)
    (registration? : Option (Registration β)) : Prop where
  aspects : before.nextAspect ≤ after.nextAspect ∧ after.nextAspect ≤ before.nextAspect + 1
  advices : after.nextAdvice ≤ before.nextAdvice + declaration.advices.length
  ids : ∀ typeName, before.idCount typeName ≤ after.idCount typeName
  seq : ∀ registration, registration? = some registration →
    registration.aspect.seq = before.nextAspect ∧ after.nextAspect = before.nextAspect + 1
  id : ∀ registration, registration? = some registration → declaration.askedId? = none →
    registration.aspect.id = before.nextId declaration.typeName ∧
      before.idCount declaration.typeName < after.idCount declaration.typeName

/-- Enabling an aspect uses at most one number up for it, one for each of its advices, and an id of
its type if it asks for none. -/
theorem counts_enable (weaver : Weaver β) (declaration : AspectDeclaration β) :
    Counts declaration weaver.aspects (weaver.enable declaration).2.aspects
      (weaver.registration? declaration) := by
  -- An aspect without options is refused at once; any other is named first, and then entered.
  rcases ran : (AspectRegistry.register declaration weaver.config.strictAspectIds).run.run
    weaver.aspects with ⟨result, after⟩
  obtain ⟨_, left, accepted⟩ := enable_of_run ran
  rw [left, accepted]
  cases asked : declaration.options with
  | none =>
    obtain ⟨rfl, fault, rfl, _⟩ := AspectRegistry.register_of_no_options asked ran
    exact ⟨⟨Nat.le_refl _, Nat.le_succ _⟩, Nat.le_add_right _ _, fun _ => Nat.le_refl _,
      by simp [Except.toOption], by simp [Except.toOption]⟩
  | some options =>
    -- Naming counts ids, entering counts aspects and advices.
    have entered := AspectRegistry.register_entered asked ran
    have named := weaver.aspects.named_spec declaration options
    have next := entered.nextAspect
    have most := entered.nextAdvice
    have counted (typeName : String) : after.idCount typeName =
        (weaver.aspects.named declaration options).2.idCount typeName := by
      rw [AspectRegistry.idCount, entered.generatedIds, AspectRegistry.idCount]
    rw [named.nextAspect] at next
    rw [named.nextAdvice] at most
    have given {registration : Registration β}
        (some : result.toOption = some registration) : result = .ok registration := by
      cases result with
      | error fault => simp [Except.toOption] at some
      | ok held => rw [Option.some.inj some]
    refine ⟨by omega, most, fun typeName => ?_, fun registration some => ⟨?_, next⟩,
      fun registration some unnamed => ?_⟩
    · rw [counted]
      exact named.counted typeName
    · rw [(entered.accepted registration (given some)).2, named.nextAspect]
    -- An id is made of the count only if none was asked for.
    · have missing : options.id = none := by
        simpa [AspectDeclaration.askedId?, asked] using unnamed
      rw [(entered.accepted registration (given some)).1, counted]
      exact named.generated missing

/-- An acceptance is the one that comes of enabling an aspect, or an earlier one. -/
theorem mem_cons_outcomeOf {declaration accepted : AspectDeclaration β}
    {registration : Registration β} :
    .accepted accepted registration ∈ weaver.outcomeOf declaration :: events ↔
      accepted = declaration ∧ weaver.registration? declaration = some registration ∨
        .accepted accepted registration ∈ events := by
  -- The outcome is an acceptance exactly if there is a registration.
  unfold outcomeOf
  cases weaver.registration? declaration <;> simp [eq_comm]

/-- An aspect that was accepted declared something. -/
theorem mem_declarations {declaration : AspectDeclaration β} {registration : Registration β}
    (member : .accepted declaration registration ∈ events) : declaration ∈ declarations events :=
  -- Every acceptance is one of the declarations.
  List.mem_filterMap.mpr ⟨_, member, rfl⟩

/-- An aspect that was to be enabled is one more that declared something. -/
theorem declarations_cons_outcomeOf (weaver : Weaver β) (declaration : AspectDeclaration β)
    (events : List (AspectEvent β)) :
    declarations (weaver.outcomeOf declaration :: events) = declaration :: declarations events := by
  -- A declaration is noted whether it is accepted or refused.
  unfold outcomeOf
  cases weaver.registration? declaration <;> rfl

/-- An aspect that was accepted has one number more. -/
theorem seqs_cons_outcomeOf (weaver : Weaver β) (declaration : AspectDeclaration β)
    (events : List (AspectEvent β)) :
    seqs (weaver.outcomeOf declaration :: events) =
      ((weaver.registration? declaration).map fun registration =>
        registration.aspect.seq).toList ++ seqs events := by
  -- Only an accepted aspect has got a number.
  unfold outcomeOf
  cases weaver.registration? declaration <;> rfl

/-- Enabling an aspect takes the next number for it, or none. -/
theorem Clocked.enable (clocked : Clocked weaver.aspects events)
    (declaration : AspectDeclaration β) :
    Clocked (weaver.enable declaration).2.aspects (weaver.outcomeOf declaration :: events) := by
  have counts := weaver.counts_enable declaration
  have aspects := clocked.aspects
  have advices := clocked.advices
  have seqs := seqs_cons_outcomeOf weaver declaration events
  have declared := declarations_cons_outcomeOf weaver declaration events
  refine ⟨?_, ?_, ?_, ?_, ?_⟩
  · -- A number that is new is the last one taken.
    intro seq member
    rw [seqs] at member
    have bounds := counts.aspects
    rcases List.mem_append.mp member with new | old
    · obtain ⟨registration, accepted, rfl⟩ :=
        Option.map_eq_some_iff.mp (Option.mem_toList.mp new)
      have taken := counts.seq registration accepted
      omega
    · have before := clocked.below seq old
      omega
  · rw [seqs]
    cases accepted : weaver.registration? declaration with
    | none => exact clocked.rising
    | some registration =>
      refine List.pairwise_cons.mpr ⟨fun seq member => ?_, clocked.rising⟩
      show seq < registration.aspect.seq
      rw [(counts.seq registration accepted).1]
      exact clocked.below seq member
  · intro other registration member
    rcases mem_cons_outcomeOf.mp member with ⟨rfl, accepted⟩ | old
    · obtain ⟨_, registered, _, _⟩ := enable_of_accepted accepted
      rw [registered.seqs]
      exact List.pairwise_lt_range'
    · exact clocked.ordered old
  · have next := counts.aspects.2
    rw [declared, List.length_cons]
    omega
  · have most := counts.advices
    rw [declared, List.map_cons, List.sum_cons]
    omega

/-- Disabling an aspect takes no number, and nothing is declared with it. -/
theorem Clocked.disable (clocked : Clocked weaver.aspects events) (id : String) :
    Clocked (weaver.disable id).2.aspects (.disabled id :: events) := by
  -- Disabling an aspect uses no number up.
  rw [(disable_eq weaver id).1]
  refine ⟨clocked.below, clocked.rising, fun member => ?_, clocked.aspects, clocked.advices⟩
  exact clocked.ordered (by simpa using member)

/-- Through everything that a weaver goes, the numbers of its aspects increase. -/
theorem Lived.clocked (lived : weaver.Lived events) : Clocked weaver.aspects events := by
  -- The induction is on what the weaver has been through.
  induction lived with
  | new config => exact ⟨by simp [seqs], .nil, by simp, Nat.le_refl _, Nat.le_refl _⟩
  | enable _ declaration earlier => exact earlier.enable declaration
  | disable _ id earlier => exact earlier.disable id
  | other _ aspects _ earlier => rwa [aspects]

end Weaver

end AspectWeaving
