import AspectWeaving.Proofs.Aspect.Identifiers

/-! Which aspects are enabled once some have been enabled under different ids: all of those whose
declarations can be entered, in whatever order they came. -/

namespace AspectWeaving

variable {β : Type}

namespace AspectDeclaration

/-- The declaration of an aspect all of whose pointcuts can be read. -/
def Sound (declaration : AspectDeclaration β) : Prop :=
  declaration.options.isSome = true ∧ declaration.Readable

/-- No two declarations ask for one id, and none asks for an id that may be generated for another.
-/
structure IdsApart (declarations : List (AspectDeclaration β)) : Prop where
  asked : (declarations.filterMap askedId?).Nodup
  generated : ∀ named ∈ declarations, ∀ unnamed ∈ declarations, unnamed.askedId? = none →
    ∀ count, named.askedId? ≠ some (AspectRegistry.generatedId unnamed.typeName count)

/-- Which ids are asked for does not depend on the order. -/
theorem IdsApart.perm {declarations others : List (AspectDeclaration β)}
    (apart : IdsApart declarations) (same : declarations.Perm others) : IdsApart others where
  -- Neither condition speaks of the order of the declarations.
  asked := (same.filterMap askedId?).nodup_iff.mp apart.asked
  generated named member unnamed member' :=
    apart.generated named (same.mem_iff.mpr member) unnamed (same.mem_iff.mpr member')

/-- Fewer declarations ask for fewer ids. -/
theorem IdsApart.tail {declaration : AspectDeclaration β} {rest : List (AspectDeclaration β)}
    (apart : IdsApart (declaration :: rest)) : IdsApart rest where
  -- What holds of all declarations holds of all but one.
  asked := apart.asked.sublist ((List.sublist_cons_self declaration rest).filterMap askedId?)
  generated named member unnamed member' :=
    apart.generated named (List.mem_cons_of_mem _ member) unnamed (List.mem_cons_of_mem _ member')

end AspectDeclaration

namespace AspectEvent

/-- The same aspects stand, under whatever ids. -/
def SameAspects (events events' : List (AspectEvent β)) : Prop :=
  ∀ declaration, (∃ id registration, Stands events id declaration registration) ↔
    ∃ id registration, Stands events' id declaration registration

end AspectEvent

namespace Weaver

open AspectEvent AspectRegistry AspectDeclaration

variable {weaver : Weaver β} {events : List (AspectEvent β)}
  {declaration : AspectDeclaration β} {registration : Registration β}

/-- The id that an aspect would be entered under. -/
def chosenId (weaver : Weaver β) (declaration : AspectDeclaration β) : String :=
  declaration.askedId?.getD (weaver.aspects.nextId declaration.typeName)

/-- An accepted aspect has the id that it was to be entered under. -/
theorem id_eq_chosenId
    (accepted : weaver.registration? declaration = some registration) :
    registration.aspect.id = weaver.chosenId declaration := by
  -- An id that is asked for is given; any other is made from the count of the type.
  unfold chosenId
  cases asked : declaration.askedId? with
  | none => exact ((weaver.counts_enable declaration).id registration accepted asked).1
  | some id => exact (fulfils_of_registration? accepted).id_eq asked

/-- Where ids are apart, the id that an aspect would be entered under is not in use. -/
theorem Lived.get?_chosenId (lived : weaver.Lived events)
    (apart : IdsApart (declaration :: declarations events)) :
    weaver.aspects.get? (weaver.chosenId declaration) = none := by
  refine Option.eq_none_iff_forall_ne_some.mpr fun aspect found => ?_
  obtain ⟨earlier, registration, stands, _⟩ := (lived.told.aspects _ _).mp found
  obtain ⟨named, late, early, same, _⟩ := id stands
  have member : .accepted earlier registration ∈ events := by simp [same]
  have declared : earlier ∈ declaration :: declarations events :=
    List.mem_cons_of_mem _ (mem_declarations member)
  cases asked : declaration.askedId? with
  | none =>
    -- Only an aspect that has asked for it has the next id.
    have chosen : weaver.chosenId declaration = weaver.aspects.nextId declaration.typeName := by
      rw [chosenId, asked, Option.getD_none]
    rw [chosen] at stands
    exact apart.generated earlier declared declaration List.mem_cons_self asked _
      (lived.asked_of_nextId stands)
  | some id =>
    have chosen : weaver.chosenId declaration = id := by rw [chosenId, asked, Option.getD_some]
    rw [chosen] at named
    cases asked' : earlier.askedId? with
    | none =>
      obtain ⟨count, _, generated⟩ := lived.generated member asked'
      refine apart.generated declaration List.mem_cons_self earlier declared asked' count ?_
      rw [asked, ← named, generated]
    | some other =>
      obtain rfl : other = id := ((lived.told.fulfilled member).id_eq asked').symm.trans named
      -- Two declarations have asked for one id.
      have once := apart.asked
      rw [List.filterMap_cons_some asked] at once
      exact (List.nodup_cons.mp once).1
        (List.mem_filterMap.mpr ⟨earlier, mem_declarations member, asked'⟩)

/-- An aspect that was accepted has a declaration that can be entered. -/
theorem sound_of_registration?
    (accepted : weaver.registration? declaration = some registration) : declaration.Sound := by
  -- Each advice of the registration was read off an advice of the declaration.
  obtain ⟨⟨options, optional, _⟩, _, _, advices⟩ := fulfils_of_registration? accepted
  refine ⟨by rw [optional]; rfl, fun advice member => ?_⟩
  obtain ⟨position, within, rfl⟩ := List.getElem_of_mem member
  have binds := advices.get within (by rwa [← advices.length_eq])
  exact ⟨_, binds.pointcut⟩

/-- The id that is chosen for an aspect with options is the one that it would be entered under. -/
theorem named_fst {options : AspectOptions} (optional : declaration.options = some options) :
    (weaver.aspects.named declaration options).1 = weaver.chosenId declaration := by
  -- Naming takes the id that is asked for, or else the next one.
  unfold chosenId AspectRegistry.named AspectDeclaration.askedId?
  rw [optional, Option.bind_some]
  cases options.id <;> rfl

/-- An aspect whose id is not in use is accepted exactly if its declaration can be entered. -/
theorem isSome_registration?_iff
    (fresh : weaver.aspects.get? (weaver.chosenId declaration) = none) :
    (weaver.registration? declaration).isSome = true ↔ declaration.Sound := by
  constructor
  · intro accepted
    obtain ⟨registration, accepted⟩ := Option.isSome_iff_exists.mp accepted
    exact sound_of_registration? accepted
  · rintro ⟨optional, readable⟩
    obtain ⟨options, optional⟩ := Option.isSome_iff_exists.mp optional
    rcases ran : (register declaration weaver.config.strictAspectIds).run.run weaver.aspects
      with ⟨result, after⟩
    rw [(enable_of_run ran).2.2]
    cases result with
    | ok registration => rfl
    | error fault =>
      rcases (register_entered optional ran).refused fault rfl with unread | ⟨_, known⟩
      · obtain ⟨_, advice, member, source, unread, _⟩ := unread
        obtain ⟨pointcut, read⟩ := readable advice member
        rw [read] at unread
        contradiction
      · -- The id that is in use is the one that the aspect would have been entered under.
        rw [(weaver.aspects.named_spec declaration options).aspects, named_fst optional,
          Dictionary.contains] at known
        rw [AspectRegistry.get?] at fresh
        rw [fresh] at known
        contradiction

/-- Where the id of an aspect is not in use, the aspects that stand once it was to be enabled are
those that stood before, and it if its declaration can be entered. -/
theorem Lived.stands_outcomeOf (lived : weaver.Lived events) {latest : AspectDeclaration β}
    (fresh : weaver.aspects.get? (weaver.chosenId latest) = none) :
    (∃ id registration,
        Stands (weaver.outcomeOf latest :: events) id declaration registration) ↔
      declaration = latest ∧ latest.Sound ∨
        ∃ id registration, Stands events id declaration registration := by
  rw [← isSome_registration?_iff fresh]
  cases accepted : weaver.registration? latest with
  | none =>
    have outcome : weaver.outcomeOf latest = .refused latest := by simp [outcomeOf, accepted]
    rw [outcome]
    simp [stands_cons, Concerns]
  | some given =>
    have outcome : weaver.outcomeOf latest = .accepted latest given := by
      simp [outcomeOf, accepted]
    have chosen := id_eq_chosenId accepted
    simp only [outcome, Option.isSome_some, and_true]
    constructor
    · rintro ⟨id, registration, stands⟩
      rw [stands_cons] at stands
      split at stands
      · exact .inl (AspectEvent.accepted.inj stands).1.symm
      · exact .inr ⟨id, registration, stands⟩
    · rintro (rfl | ⟨id, registration, stands⟩)
      · refine ⟨given.aspect.id, given, stands_cons.mpr ?_⟩
        have own : Concerns given.aspect.id (.accepted declaration given) := rfl
        rw [if_pos own]
      · -- What stood before has another id.
        have other : ¬ Concerns id (.accepted latest given) := by
          rintro rfl
          have found := (lived.told.aspects _ _).mpr ⟨_, registration, stands, rfl⟩
          rw [chosen] at found
          exact absurd (fresh.symm.trans found) (by simp)
        refine ⟨id, registration, stands_cons.mpr ?_⟩
        rwa [if_neg other]

/-- Where ids are apart and nothing has been disabled, those aspects stand whose declarations can be
entered. -/
theorem Lived.stands_iff (lived : weaver.Lived events)
    (enabling : ∀ id, .disabled id ∉ events) (apart : IdsApart (declarations events)) :
    (∃ id registration, Stands events id declaration registration) ↔
      declaration ∈ declarations events ∧ declaration.Sound := by
  -- The induction is on what the weaver has been through.
  induction lived with
  | new config => simp [declarations, not_stands_nil]
  | @enable weaver events lived latest earlier =>
    rw [declarations_cons_outcomeOf] at apart ⊢
    have before := earlier (fun id member => enabling id (List.mem_cons_of_mem _ member)) apart.tail
    rw [lived.stands_outcomeOf (lived.get?_chosenId apart), before, List.mem_cons]
    constructor
    · rintro (⟨rfl, sound⟩ | ⟨member, sound⟩)
      · exact ⟨.inl rfl, sound⟩
      · exact ⟨.inr member, sound⟩
    · rintro ⟨rfl | member, sound⟩
      · exact .inl ⟨rfl, sound⟩
      · exact .inr ⟨member, sound⟩
  | disable _ id _ => exact absurd List.mem_cons_self (enabling id)
  | other _ _ _ earlier => exact earlier enabling apart

/-- Two weavers that enable the same aspects in different orders, where ids are apart, end up with
the same aspects. -/
theorem Lived.sameAspects_of_perm (lived : weaver.Lived events) {weaver' : Weaver β}
    {events' : List (AspectEvent β)} (lived' : weaver'.Lived events')
    (enabling : ∀ id, .disabled id ∉ events) (enabling' : ∀ id, .disabled id ∉ events')
    (same : (declarations events).Perm (declarations events'))
    (apart : IdsApart (declarations events)) : SameAspects events events' := by
  -- What stands depends on which declarations were made, and not on their order.
  intro declaration
  rw [lived.stands_iff enabling apart, lived'.stands_iff enabling' (apart.perm same), same.mem_iff]

end Weaver

end AspectWeaving
