import AspectWeaving.Proofs.Aspect.Chronicle

/-! Ids that are generated for aspects: no two aspects of a weaver have the same one, and enabling
an aspect that asks for no id collides with an enabled one only if that one asked for the very id.
-/

namespace AspectWeaving.Weaver

open AspectEvent AspectRegistry

variable {β : Type} {weaver : Weaver β} {events : List (AspectEvent β)}
  {declaration : AspectDeclaration β} {options : AspectOptions}

/-- An accepted aspect that asked for no id has one that has been counted. -/
theorem Lived.generated (lived : weaver.Lived events) {registration : Registration β}
    (member : .accepted declaration registration ∈ events)
    (unnamed : declaration.askedId? = none) :
    ∃ count < weaver.aspects.idCount declaration.typeName,
      registration.aspect.id = generatedId declaration.typeName count := by
  -- The induction is on what the weaver has been through; counts only grow.
  induction lived with
  | new config => contradiction
  | @enable weaver events _ latest earlier =>
    have counts := weaver.counts_enable latest
    rcases mem_cons_outcomeOf.mp member with ⟨rfl, accepted⟩ | old
    · obtain ⟨id, counted⟩ := counts.id registration accepted unnamed
      exact ⟨_, counted, id⟩
    · obtain ⟨count, below, id⟩ := earlier old
      exact ⟨count, Nat.lt_of_lt_of_le below (counts.ids _), id⟩
  | @disable weaver events _ gone earlier =>
    have old : .accepted declaration registration ∈ events := by simpa using member
    rw [(disable_eq weaver gone).1]
    exact earlier old
  | other _ aspects _ earlier =>
    rw [aspects]
    exact earlier member

/-- An enabled aspect that has the next id of a type has asked for it. -/
theorem Lived.asked_of_nextId (lived : weaver.Lived events) {typeName : String}
    {registration : Registration β}
    (stands : Stands events (weaver.aspects.nextId typeName) declaration registration) :
    declaration.askedId? = some (weaver.aspects.nextId typeName) := by
  obtain ⟨named, late, early, same, _⟩ := stands
  have member : .accepted declaration registration ∈ events := by simp [same]
  cases asked : declaration.askedId? with
  | none =>
    -- A generated id has been counted already, and the next one has not.
    obtain ⟨count, below, id⟩ := lived.generated member asked
    rw [id, nextId, generatedId_inj] at named
    rw [named.1] at below
    omega
  | some wanted =>
    rw [← named, (lived.told.fulfilled member).id_eq asked]

/-- Enabling an aspect keeps clear of those that are enabled: it gets an id that none of them has,
takes the place of none, and is not refused for its id. -/
structure KeepsClear (weaver : Weaver β) (declaration : AspectDeclaration β) : Prop where
  fresh : ∀ id aspect, weaver.aspects.get? id = some aspect →
    id ≠ weaver.aspects.nextId declaration.typeName
  named : ∀ aspect, (weaver.enable declaration).1 = .ok aspect →
    aspect.id = weaver.aspects.nextId declaration.typeName
  kept : ∀ id aspect, weaver.aspects.get? id = some aspect →
    (weaver.enable declaration).2.aspects.get? id = some aspect ∧
      (weaver.enable declaration).2.advices.ofAspect id = weaver.advices.ofAspect id
  admitted : ∀ id, (weaver.enable declaration).1 ≠ .error (.duplicateId id)

/-- An aspect that is refused as a duplicate has an id that is in use. -/
theorem exists_of_duplicateId {id : String}
    (refused : (weaver.enable declaration).1 = .error (.duplicateId id))
    (unnamed : declaration.askedId? = none) :
    ∃ aspect, weaver.aspects.get? (weaver.aspects.nextId declaration.typeName) = some aspect := by
  rcases ran : (register declaration weaver.config.strictAspectIds).run.run weaver.aspects
    with ⟨result, after⟩
  rw [(enable_of_run ran).1] at refused
  obtain rfl : result = .error (.duplicateId id) := by
    cases result with
    | error fault => rw [Except.error.inj refused]
    | ok registration => contradiction
  cases asked : declaration.options with
  | none =>
    obtain ⟨_, fault, same, other⟩ := register_of_no_options asked ran
    exact absurd (Except.error.inj same).symm (other id)
  | some options =>
    have missing : options.id = none := by
      simpa [AspectDeclaration.askedId?, asked] using unnamed
    have named := weaver.aspects.named_spec declaration options
    rcases (register_entered asked ran).refused _ rfl with unread | ⟨_, known⟩
    · -- A pointcut that cannot be read is refused as such.
      obtain ⟨_, _, _, _, _, same⟩ := unread
      contradiction
    · rw [named.aspects, (named.generated missing).1] at known
      exact Option.isSome_iff_exists.mp known

/-- Enabling an aspect whose id is not in use leaves all others enabled, with their advices. -/
theorem kept_of_fresh (unnamed : declaration.askedId? = none)
    (fresh : weaver.aspects.get? (weaver.aspects.nextId declaration.typeName) = none)
    {id : String} {aspect : RegisteredAspect} (enabled : weaver.aspects.get? id = some aspect) :
    (weaver.enable declaration).2.aspects.get? id = some aspect ∧
      (weaver.enable declaration).2.advices.ofAspect id = weaver.advices.ofAspect id := by
  cases accepted : weaver.registration? declaration with
  | none =>
    obtain ⟨advanced, same⟩ := enable_of_refused accepted
    rw [same, AspectRegistry.get?, advanced.aspects]
    exact ⟨enabled, rfl⟩
  | some registration =>
    obtain ⟨after, registered, aspects, advices⟩ := enable_of_accepted accepted
    have chosen := ((weaver.counts_enable declaration).id registration accepted unnamed).1
    have other : id ≠ registration.aspect.id := by
      rintro rfl
      rw [chosen, fresh] at enabled
      contradiction
    have beside : registration.replaced = false := by
      rw [registered.replaced, chosen, Dictionary.contains]
      exact Option.isSome_eq_false_iff.mpr (Option.isNone_iff_eq_none.mpr fresh)
    -- The advices that are listed now belong to the new aspect.
    have none : (registration.advices.filter fun advice => id = advice.aspectId) = [] := by
      rw [List.filter_eq_nil_iff]
      intro advice member
      simp [registered.owned advice member, other]
    rw [aspects, AspectRegistry.get?, registered.aspects, Dictionary.get?_insert, if_neg other,
      advices, beside, AdviceIndex.ofAspect_foldl_register, none]
    exact ⟨enabled, List.append_nil _⟩

/-- Whatever a weaver has been through, enabling an aspect that asks for no id keeps clear of those
that are enabled, unless one of them has asked for the very id that is generated. -/
theorem Lived.keepsClear_iff (lived : weaver.Lived events)
    (unnamed : declaration.askedId? = none) :
    weaver.KeepsClear declaration ↔ ∀ earlier registration,
      Stands events (weaver.aspects.nextId declaration.typeName) earlier registration →
        earlier.askedId? ≠ some (weaver.aspects.nextId declaration.typeName) := by
  -- What stands under the next id was either asked for or generated; no id is generated twice.
  have tracks := lived.told.aspects
  constructor
  · intro clear earlier registration stands _
    exact clear.fresh _ _ ((tracks _ _).mpr ⟨earlier, registration, stands, rfl⟩) rfl
  · intro apart
    -- If it was not asked for, nothing stands there.
    have fresh : weaver.aspects.get? (weaver.aspects.nextId declaration.typeName) = none := by
      refine Option.eq_none_iff_forall_ne_some.mpr fun aspect found => ?_
      obtain ⟨earlier, registration, stands, _⟩ := (tracks _ _).mp found
      exact apart earlier registration stands (lived.asked_of_nextId stands)
    refine ⟨?_, fun aspect enabled => ?_, fun id aspect enabled =>
      kept_of_fresh unnamed fresh enabled, fun id refused => ?_⟩
    · rintro id aspect found rfl
      rw [fresh] at found
      contradiction
    · have given := weaver.enable_fst declaration
      rw [enabled] at given
      obtain ⟨registration, accepted, rfl⟩ := Option.map_eq_some_iff.mp given.symm
      exact ((weaver.counts_enable declaration).id registration accepted unnamed).1
    · obtain ⟨aspect, found⟩ := exists_of_duplicateId refused unnamed
      rw [fresh] at found
      contradiction

/-- An aspect without advices that asks for no id. -/
def unnamedAlpha : AspectDeclaration Unit := ⟨"Alpha", 0, some ⟨none, none⟩, []⟩

/-- An aspect of another type that asks for the first id generated for that one. -/
def namedBeta : AspectDeclaration Unit := ⟨"Beta", 1, some ⟨some "Alpha#0", none⟩, []⟩

/-- A second aspect of a type keeps clear of the first one. -/
theorem keepsClear_unnamedAlpha :
    ((ofConfig .standard).enable unnamedAlpha).2.KeepsClear unnamedAlpha := by
  have lived := (Lived.new .standard).enable unnamedAlpha
  refine (lived.keepsClear_iff rfl).mpr fun earlier registration stands => ?_
  obtain ⟨_, late, early, same, _⟩ := stands
  have only : .accepted earlier registration ∈ [(ofConfig .standard).outcomeOf unnamedAlpha] := by
    simp [same]
  -- The one aspect that was accepted asks for no id.
  have accepted : (ofConfig .standard).outcomeOf unnamedAlpha = .accepted unnamedAlpha _ := rfl
  rw [List.mem_singleton, accepted] at only
  obtain ⟨rfl, rfl⟩ := AspectEvent.accepted.inj only
  decide

/-- An aspect that has asked for an id of another type is not kept clear of. -/
theorem not_keepsClear_namedBeta :
    ¬ ((ofConfig .standard).enable namedBeta).2.KeepsClear unnamedAlpha := by
  -- The id that comes next is the one that was asked for.
  intro clear
  exact clear.fresh "Alpha#0" _ rfl rfl

end AspectWeaving.Weaver
