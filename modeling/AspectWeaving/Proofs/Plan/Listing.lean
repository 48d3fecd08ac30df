import AspectWeaving.Proofs.Plan.Sources

/-! The order in which the ids of the enabled aspects are listed. It is that in which the ids came
into use, which a replacement does not change, whereas the aspects run in the order in which they
were accepted. -/

namespace AspectWeaving

variable {β : Type}

/-- The enabled aspects are listed in the order in which they were accepted: their numbers
increase. -/
def AspectRegistry.InOrder (registry : AspectRegistry) : Prop :=
  registry.aspects.values.Pairwise fun x y => x.seq < y.seq

instance (registry : AspectRegistry) : Decidable registry.InOrder :=
  inferInstanceAs (Decidable (List.Pairwise _ _))

namespace AspectEvent

/-- The time since which an id is in use: how many events were before the acceptance that found it
free. An aspect that is accepted under an id in use takes the place of another and leaves the
time. -/
def usedSince? : List (AspectEvent β) → String → Option Nat
  | [], _ => none
  | .accepted _ registration :: earlier, id =>
    if registration.aspect.id = id then some ((usedSince? earlier id).getD earlier.length)
    else usedSince? earlier id
  | .refused _ :: earlier, id => usedSince? earlier id
  | .disabled gone :: earlier, id => if gone = id then none else usedSince? earlier id

/-- One id is in use for longer than another. -/
def UsedLonger (events : List (AspectEvent β)) (x y : String) : Prop :=
  ∃ s t, usedSince? events x = some s ∧ usedSince? events y = some t ∧ s < t

/-- Among events, newest first, the aspect that is enabled under an id was accepted at some time. -/
def AcceptedAt (events : List (AspectEvent β)) (id : String) (time : Nat) : Prop :=
  ∃ declaration registration, Stands events id declaration registration ∧
    events.reverse[time]? = some (.accepted declaration registration)

/-- The aspect that is enabled under one id was accepted before that under another. -/
def AcceptedBefore (events : List (AspectEvent β)) (x y : String) : Prop :=
  ∃ s t, AcceptedAt events x s ∧ AcceptedAt events y t ∧ s < t

variable {events : List (AspectEvent β)} {id x y : String}

/-- An id has come into use before now. -/
theorem usedSince?_lt {time : Nat} (used : usedSince? events id = some time) :
    time < events.length := by
  -- The induction is on the events; only an acceptance brings a time in.
  induction events generalizing time with
  | nil => cases used
  | cons event earlier ih =>
    rw [List.length_cons]
    cases event with
    | accepted declaration registration =>
      rw [usedSince?] at used
      split at used
      · cases before : usedSince? earlier id with
        | none =>
          obtain rfl : earlier.length = time := by simpa [before] using used
          exact Nat.lt_succ_self _
        | some since =>
          obtain rfl : since = time := by simpa [before] using used
          exact Nat.lt_succ_of_lt (ih before)
      · exact Nat.lt_succ_of_lt (ih used)
    | refused declaration => exact Nat.lt_succ_of_lt (ih used)
    | disabled gone =>
      rw [usedSince?] at used
      split at used
      · cases used
      · exact Nat.lt_succ_of_lt (ih used)

/-- An id is in use exactly if an aspect stands under it. -/
theorem exists_usedSince :
    (∃ time, usedSince? events id = some time) ↔
      ∃ declaration registration, Stands events id declaration registration := by
  -- The induction is on the events; a later event changes both sides if it concerns the id.
  induction events with
  | nil => simp [usedSince?, not_stands_nil]
  | cons event earlier ih =>
    simp only [stands_cons]
    cases event with
    | accepted declaration registration =>
      rw [usedSince?]
      by_cases named : registration.aspect.id = id
      · simp [named, Concerns]
      · simpa [named, Concerns] using ih
    | refused declaration => simpa [usedSince?, Concerns] using ih
    | disabled gone =>
      rw [usedSince?]
      by_cases named : gone = id
      · simp [named, Concerns]
      · simpa [named, Concerns] using ih

/-- An id that is in use stays so since the same time, whatever is accepted. -/
theorem usedSince?_accepted {time : Nat} (used : usedSince? events id = some time)
    (declaration : AspectDeclaration β) (registration : Registration β) :
    usedSince? (.accepted declaration registration :: events) id = some time := by
  -- An id in use stays in use since the same time.
  rw [usedSince?, used]
  split <;> rfl

/-- A free id is in use since the acceptance that found it so. -/
theorem usedSince?_accepted_of_free {registration : Registration β}
    (free : usedSince? events registration.aspect.id = none)
    (declaration : AspectDeclaration β) :
    usedSince? (.accepted declaration registration :: events) registration.aspect.id =
      some events.length := by
  -- The acceptance is the last event so far.
  rw [usedSince?, if_pos rfl, free, Option.getD_none]

/-- The other ids stay in use when one is disabled. -/
theorem usedSince?_disabled {gone : String} (other : id ≠ gone) :
    usedSince? (.disabled gone :: events) id = usedSince? events id := by
  -- The event concerns another id.
  rw [usedSince?, if_neg (Ne.symm other)]

/-- Of two ids not each is in use for longer. -/
theorem UsedLonger.asymm (longer : UsedLonger events x y) : ¬UsedLonger events y x := by
  -- Each id is in use since one time.
  obtain ⟨s, t, since, since', less⟩ := longer
  rintro ⟨t', s', again, again', more⟩
  obtain rfl : t = t' := Option.some.inj (since'.symm.trans again)
  obtain rfl : s = s' := Option.some.inj (since.symm.trans again')
  omega

end AspectEvent

namespace Weaver

open AspectEvent

variable {weaver : Weaver β} {events : List (AspectEvent β)}

/-- The ids that are listed are those under which an aspect stands. -/
theorem Lived.mem_ids (lived : weaver.Lived events) {id : String} :
    id ∈ weaver.aspects.ids ↔
      ∃ declaration registration, Stands events id declaration registration := by
  -- An id is listed if an aspect is found under it, and then one stands.
  rw [AspectRegistry.ids, Dictionary.mem_keys]
  constructor
  · rintro ⟨aspect, found⟩
    obtain ⟨declaration, registration, stands, _⟩ := (lived.told.aspects id aspect).mp found
    exact ⟨declaration, registration, stands⟩
  · rintro ⟨declaration, registration, stands⟩
    exact ⟨_, (lived.told.aspects id _).mpr ⟨declaration, registration, stands, rfl⟩⟩

/-- An acceptance leaves the ids that are listed in use since the same times, and a new id comes
into use behind them. -/
theorem Lived.usedLonger_accept (lived : weaver.Lived events)
    (listed : weaver.aspects.ids.Pairwise (UsedLonger events)) {after : AspectRegistry}
    {registration : Registration β}
    (registered : AspectRegistry.Registered weaver.aspects after registration)
    (declaration : AspectDeclaration β) :
    after.ids.Pairwise (UsedLonger (.accepted declaration registration :: events)) := by
  have stays : weaver.aspects.ids.Pairwise
      (UsedLonger (.accepted declaration registration :: events)) :=
    listed.imp fun ⟨s, t, since, since', less⟩ =>
      ⟨s, t, usedSince?_accepted since _ _, usedSince?_accepted since' _ _, less⟩
  rw [AspectRegistry.ids, registered.aspects, Dictionary.keys, Dictionary.insert,
    Dictionary.map_fst_putEntry]
  split
  · exact stays
  · next free =>
    refine List.pairwise_append.mpr ⟨stays, List.pairwise_singleton _ _, fun x member y last => ?_⟩
    obtain rfl := List.mem_singleton.mp last
    obtain ⟨s, since⟩ := exists_usedSince.mpr (lived.mem_ids.mp member)
    -- An id that is not listed is not in use, so that it comes into use only now.
    have unused : usedSince? events registration.aspect.id = none := by
      refine Option.eq_none_iff_forall_ne_some.mpr fun time used => free ?_
      exact lived.mem_ids.mpr (exists_usedSince.mp ⟨time, used⟩)
    exact ⟨s, _, usedSince?_accepted since _ _, usedSince?_accepted_of_free unused _,
      usedSince?_lt since⟩

/-- Disabling an aspect leaves the other ids in use since the same times. -/
theorem usedLonger_remove {registry : AspectRegistry}
    (listed : registry.ids.Pairwise (UsedLonger events)) (id : String) :
    (registry.remove id).ids.Pairwise (UsedLonger (.disabled id :: events)) := by
  -- Those that are left are in the order in which they were.
  have left : (registry.remove id).ids.Pairwise (UsedLonger events) :=
    listed.sublist (List.filter_sublist.map Prod.fst)
  refine left.imp_of_mem fun here there ⟨s, t, since, since', less⟩ => ⟨s, t, ?_, ?_, less⟩
  · rwa [usedSince?_disabled (Dictionary.mem_keys_erase.mp here).2]
  · rwa [usedSince?_disabled (Dictionary.mem_keys_erase.mp there).2]

/-- The longer an id is in use, the earlier it is listed. -/
theorem Lived.usedLonger (lived : weaver.Lived events) :
    weaver.aspects.ids.Pairwise (UsedLonger events) := by
  -- The induction is on what the weaver has been through.
  induction lived with
  | new config => exact .nil
  | @enable weaver events lived declaration listed =>
    unfold outcomeOf
    cases accepted : weaver.registration? declaration with
    | none =>
      rw [AspectRegistry.ids, (enable_of_refused accepted).1.aspects]
      exact listed
    | some registration =>
      obtain ⟨_, registered, rfl, _⟩ := enable_of_accepted accepted
      exact lived.usedLonger_accept listed registered declaration
  | disable _ id listed =>
    rw [(disable_eq _ id).1]
    exact usedLonger_remove listed id
  | other _ aspects _ listed => rwa [aspects]

/-- The numbers of enabled aspects compare like the times at which they were accepted. -/
theorem Lived.acceptedBefore_iff (lived : weaver.Lived events) {x y : String}
    {first second : RegisteredAspect} (here : weaver.aspects.aspects.get? x = some first)
    (there : weaver.aspects.aspects.get? y = some second) :
    AcceptedBefore events x y ↔ first.seq < second.seq := by
  have tracks := lived.told.aspects
  constructor
  · rintro ⟨s, t, ⟨_, registration, stands, at_s⟩, ⟨_, registration', stands', at_t⟩, less⟩
    -- Under each id one aspect is enabled.
    have enabled := (tracks x _).mpr ⟨_, registration, stands, rfl⟩
    have enabled' := (tracks y _).mpr ⟨_, registration', stands', rfl⟩
    obtain rfl : registration.aspect = first := Option.some.inj (enabled.symm.trans here)
    obtain rfl : registration'.aspect = second := Option.some.inj (enabled'.symm.trans there)
    exact (lived.clocked.seq_lt_iff at_s at_t).mpr less
  · intro less
    obtain ⟨_, _, stands, rfl⟩ := (tracks x first).mp here
    obtain ⟨_, _, stands', rfl⟩ := (tracks y second).mp there
    obtain ⟨s, at_s⟩ := exists_time stands
    obtain ⟨t, at_t⟩ := exists_time stands'
    exact ⟨s, t, ⟨_, _, stands, at_s⟩, ⟨_, _, stands', at_t⟩,
      (lived.clocked.seq_lt_iff at_s at_t).mp less⟩

/-- The numbers of the aspects increase along the list exactly if these were accepted in its
order. -/
theorem Lived.inOrder_iff_pairwise (lived : weaver.Lived events) :
    weaver.aspects.InOrder ↔ weaver.aspects.ids.Pairwise (AcceptedBefore events) := by
  -- Numbers are given in the order of acceptance.
  rw [AspectRegistry.InOrder, AspectRegistry.ids, Dictionary.values, Dictionary.keys,
    List.pairwise_map, List.pairwise_map]
  refine List.Pairwise.iff_of_mem fun here there => ?_
  exact (lived.acceptedBefore_iff (Dictionary.get?_eq_some.mpr here)
    (Dictionary.get?_eq_some.mpr there)).symm

/-- The aspects are listed in the order in which they were accepted exactly if whichever id has been
in use for longer than another has its aspect from an earlier acceptance. -/
theorem Lived.inOrder_iff (lived : weaver.Lived events) :
    weaver.aspects.InOrder ↔ ∀ x y, UsedLonger events x y → AcceptedBefore events x y := by
  have oldest := lived.usedLonger
  rw [lived.inOrder_iff_pairwise]
  refine ⟨fun sorted x y longer => ?_, fun agree => oldest.imp (agree _ _)⟩
  have ⟨s, t, since, since', _⟩ := longer
  have here := lived.mem_ids.mpr (exists_usedSince.mp ⟨s, since⟩)
  have there := lived.mem_ids.mpr (exists_usedSince.mp ⟨t, since'⟩)
  -- Of two ids in the list the first has been in use for longer, so that the second has not.
  have forwards : weaver.aspects.ids.Pairwise fun x y =>
      UsedLonger events x y → AcceptedBefore events x y := by
    refine sorted.imp fun before => ?_
    exact fun _ => before
  have backwards : weaver.aspects.ids.Pairwise fun x y =>
      UsedLonger events y x → AcceptedBefore events y x :=
    oldest.imp fun first second => absurd second first.asymm
  exact forwards.forall_of_forall_of_flip (fun _ _ longer => absurd longer longer.asymm) backwards
    here there longer

/-- Of two aspects not each was accepted before the other. -/
theorem Lived.acceptedBefore_asymm (lived : weaver.Lived events) {x y : String}
    (before : AcceptedBefore events x y) : ¬AcceptedBefore events y x := by
  -- Aspects that stand have numbers, which are in a linear order.
  have ⟨_, _, ⟨_, registration, stands, _⟩, ⟨_, registration', stands', _⟩, _⟩ := before
  have here := (lived.told.aspects x _).mpr ⟨_, registration, stands, rfl⟩
  have there := (lived.told.aspects y _).mpr ⟨_, registration', stands', rfl⟩
  rw [lived.acceptedBefore_iff here there] at before
  rw [lived.acceptedBefore_iff there here]
  omega

/-- In each phase of a plan, of two advices of aspects with one order the first is of the aspect
that was accepted first, unless both are of one aspect. -/
theorem Lived.pairwise_accepted (lived : weaver.Lived events) (reflection : Reflection β)
    (target : Target) (joinpoint : Joinpoint) (phase : Phase) :
    ((Plan.build reflection weaver.advices target joinpoint).ofPhase phase).Pairwise fun x y =>
      x.precedence.aspectOrder = y.precedence.aspectOrder →
        x.aspectId = y.aspectId ∨ AcceptedBefore events x.aspectId y.aspectId := by
  have listed := (lived.ofPhase_build reflection target joinpoint phase).2
  refine (lived.pairwise_from reflection target joinpoint phase).imp_of_mem
    fun {x y} first second sorted same => ?_
  obtain ⟨source, comes⟩ := ((listed x).mp first).1
  obtain ⟨source', comes'⟩ := ((listed y).mp second).1
  have before := sorted source source' comes comes'
  have ⟨_, stands, here, held⟩ := comes
  have ⟨_, stands', there, held'⟩ := comes'
  rw [(lived.precedence_eq (mem_of_time here) held).1,
    (lived.precedence_eq (mem_of_time there) held').1] at same
  -- The sources are those of the aspects, so that their times tell.
  rcases (before.le.2 same).eq_or_lt with together | earlier
  · exact .inl ((lived.time_eq_iff comes comes').mpr together)
  · exact .inr ⟨_, _, ⟨_, _, stands, here⟩, ⟨_, _, stands', there⟩, earlier⟩

/-- Where the aspects are listed in the order in which they were accepted, an aspect that was
accepted before another does not stand behind it. -/
theorem Lived.idxOf_le (lived : weaver.Lived events) (inOrder : weaver.aspects.InOrder)
    {x y : String} (before : AcceptedBefore events x y) :
    weaver.aspects.ids.idxOf x ≤ weaver.aspects.ids.idxOf y := by
  -- If one came behind the other in the list, it would have been accepted later.
  have ⟨_, _, ⟨_, _, stands, _⟩, ⟨_, _, stands', _⟩, _⟩ := before
  have here := List.idxOf_lt_length_of_mem (lived.mem_ids.mpr ⟨_, _, stands⟩)
  have there := List.idxOf_lt_length_of_mem (lived.mem_ids.mpr ⟨_, _, stands'⟩)
  have sorted := List.pairwise_iff_getElem.mp (lived.inOrder_iff_pairwise.mp inOrder)
  refine Nat.le_of_not_lt fun behind => ?_
  have backwards := sorted _ _ there here behind
  rw [List.getElem_idxOf, List.getElem_idxOf] at backwards
  exact lived.acceptedBefore_asymm before backwards

/-- How the ids of the enabled aspects are listed, and when that is the order in which the aspects
were accepted. -/
structure ListsInUse (weaver : Weaver β) (events : List (AspectEvent β)) : Prop where
  /-- Every enabled aspect is listed once. -/
  nodup : weaver.aspects.ids.Nodup
  /-- No other is listed. -/
  enabled : ∀ id, id ∈ weaver.aspects.ids ↔
    ∃ declaration registration, Stands events id declaration registration
  /-- The longer an id is in use, the earlier it is listed. -/
  longest : weaver.aspects.ids.Pairwise (UsedLonger events)
  /-- The numbers increase along the list exactly if the aspects were accepted in its order. -/
  numbers : weaver.aspects.InOrder ↔ weaver.aspects.ids.Pairwise (AcceptedBefore events)
  /-- They do so exactly if no id that has been in use for longer than another has its aspect from a
  later acceptance. -/
  inOrder : weaver.aspects.InOrder ↔ ∀ x y, UsedLonger events x y → AcceptedBefore events x y
  /-- Aspects with one order run as they were accepted. -/
  runs : ∀ reflection target joinpoint phase,
    ((Plan.build reflection weaver.advices target joinpoint).ofPhase phase).Pairwise fun x y =>
      x.precedence.aspectOrder = y.precedence.aspectOrder →
        x.aspectId = y.aspectId ∨ AcceptedBefore events x.aspectId y.aspectId
  /-- If the numbers increase, aspects with one order run as they are listed. -/
  follows : weaver.aspects.InOrder → ∀ reflection target joinpoint phase,
    ((Plan.build reflection weaver.advices target joinpoint).ofPhase phase).Pairwise fun x y =>
      x.precedence.aspectOrder = y.precedence.aspectOrder →
        weaver.aspects.ids.idxOf x.aspectId ≤ weaver.aspects.ids.idxOf y.aspectId

/-- Whatever a weaver has been through, the ids of its aspects are listed by how long they have been
in use. -/
theorem Lived.ids_listed (lived : weaver.Lived events) : weaver.ListsInUse events where
  -- Each part has its lemma; in order, the advices follow their ids.
  nodup := weaver.aspects.aspects.nodup
  enabled _ := lived.mem_ids
  longest := lived.usedLonger
  numbers := lived.inOrder_iff_pairwise
  inOrder := lived.inOrder_iff
  runs := lived.pairwise_accepted
  follows inOrder reflection target joinpoint phase := by
    refine (lived.pairwise_accepted reflection target joinpoint phase).imp fun accepted same => ?_
    rcases accepted same with one | before
    · rw [one]
    · exact lived.idxOf_le inOrder before

/-- An aspect with one advice around everything that asks for an id. -/
def titled (id : String) : AspectDeclaration Unit where
  typeName := "Titled"
  objectId := 0
  options := some ⟨some id, none⟩
  advices := [⟨"watch", .around, "any *", none, ()⟩]

/-- A weaver that has enabled two aspects, and then the first once more. -/
def renewed : Weaver Unit :=
  ((((ofConfig .standard).enable (titled "a")).2.enable (titled "b")).2.enable (titled "a")).2

/-- The renewed aspect keeps its place in the list, although it was accepted last. -/
theorem renewed_listed_first :
    (∃ events, renewed.Lived events) ∧ renewed.aspects.ids = ["a", "b"] ∧
      renewed.aspects.aspects.values.map RegisteredAspect.seq = [2, 1] ∧
      ¬renewed.aspects.InOrder :=
  -- The aspect that was enabled again keeps its place and gets a new number.
  ⟨⟨_, (((Lived.new .standard).enable _).enable _).enable _⟩, rfl, rfl, by decide +kernel⟩

/-- The id of the renewed aspect has been in use for longer than the other one, but its aspect was
not accepted before that of the other. -/
theorem ids_listed_renewed :
    ∃ events, renewed.ListsInUse events ∧
      ∃ x y, UsedLonger events x y ∧ ¬AcceptedBefore events x y := by
  -- The list is not in order, so that some id is in use longer without having been accepted before.
  have lists : renewed.ListsInUse _ :=
    ((((Lived.new .standard).enable (titled "a")).enable (titled "b")).enable
      (titled "a")).ids_listed
  have notInOrder : ¬renewed.aspects.InOrder := by decide +kernel
  rw [lists.inOrder] at notInOrder
  exact ⟨_, lists, by simpa only [not_forall, exists_prop] using notInOrder⟩

end Weaver

end AspectWeaving
