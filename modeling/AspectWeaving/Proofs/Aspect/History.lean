import AspectWeaving.Proofs.Aspect.Roster

/-! What a weaver has been asked to enable and to disable tells which aspects are enabled now, with
which advices, and what the index of advices lists. -/

namespace AspectWeaving

variable {β α : Type}

/-- An advice of an enabled aspect that is as it was declared. -/
structure Advice.Binds (aspect : RegisteredAspect) (declared : AdviceDeclaration β)
    (advice : Advice β) : Prop where
  name : advice.name = declared.name
  pointcut : Pointcut.parse declared.phase declared.expression = .ok advice.pointcut
  body : advice.body = declared.body
  aspectId : advice.aspectId = aspect.id
  aspectOrder : advice.precedence.aspectOrder = aspect.order
  aspectSeq : advice.precedence.aspectSeq = aspect.seq
  adviceOrder : advice.precedence.adviceOrder = declared.order.getD .lowest

/-- An accepted aspect that is as it was declared, with its advices in the order of their
declaration. -/
structure Registration.Fulfils (registration : Registration β)
    (declaration : AspectDeclaration β) : Prop where
  asked : ∃ options, declaration.options = some options ∧
    registration.aspect.order = options.order.getD .lowest ∧
    ∀ id, options.id = some id → registration.aspect.id = id
  typeName : registration.aspect.typeName = declaration.typeName
  objectId : registration.aspect.objectId = declaration.objectId
  advices : List.Forall₂ (Advice.Binds registration.aspect) declaration.advices
    registration.advices

namespace AspectRegistry

variable {registry after : AspectRegistry}

/-- An advice that is entered is as it was declared. -/
theorem enrol_binds {aspect : RegisteredAspect} {declared : AdviceDeclaration β}
    {advice : Advice β}
    (ran : (enrol aspect.id aspect.order aspect.seq declared).run.run registry =
      (.ok advice, after)) : Advice.Binds aspect declared advice := by
  -- An advice is made only if its expression can be read.
  unfold enrol at ran
  cases read : Pointcut.parse declared.phase declared.expression with
  | error source =>
    simp only [read] at ran
    cases ran
  | ok pointcut =>
    simp only [read] at ran
    cases ran
    exact ⟨rfl, read, rfl, rfl, rfl, rfl, rfl⟩

/-- Advices that are entered are as they were declared, in the same order. -/
theorem enrolAll_binds {aspect : RegisteredAspect} {declared : List (AdviceDeclaration β)}
    {advices : List (Advice β)}
    (ran : (declared.mapM (enrol aspect.id aspect.order aspect.seq)).run.run registry =
      (.ok advices, after)) :
    List.Forall₂ (Advice.Binds aspect) declared advices := by
  -- The induction is on the declarations that are still to be read.
  induction declared generalizing registry after advices with
  | nil =>
    rw [List.mapM_nil] at ran
    obtain ⟨same, _⟩ := Fallible.run_pure_eq.mp ran
    cases same
    exact .nil
  | cons first rest ih =>
    rw [List.mapM_cons] at ran
    obtain ⟨advice, between, read, goes⟩ | ⟨_, _, same⟩ := Fallible.run_bind_eq.mp ran
    · obtain ⟨others, last, entered, ends⟩ | ⟨_, _, same⟩ := Fallible.run_bind_eq.mp goes
      · obtain ⟨same, _⟩ := Fallible.run_pure_eq.mp ends
        cases same
        exact .cons (enrol_binds read) (ih entered)
      · contradiction
    · contradiction

/-- An aspect that is entered under an id has that id, and is as it was declared. -/
theorem enter_fulfils {declaration : AspectDeclaration β} {order : Order} {strictIds : Bool}
    {id : String} {registration : Registration β}
    (ran : (enter declaration order strictIds id).run.run registry = (.ok registration, after)) :
    registration.aspect.id = id ∧ registration.aspect.order = order ∧
      registration.aspect.typeName = declaration.typeName ∧
      registration.aspect.objectId = declaration.objectId ∧
      List.Forall₂ (Advice.Binds registration.aspect) declaration.advices
        registration.advices := by
  obtain ⟨seq, _, ⟨⟩, goes⟩ | ⟨_, ⟨⟩, _⟩ := Fallible.run_bind_eq.mp ran
  obtain ⟨advices, entered, read, ends⟩ | ⟨_, _, same⟩ := Fallible.run_bind_eq.mp goes
  · obtain ⟨_, _, ⟨⟩, last⟩ | ⟨_, ⟨⟩, _⟩ := Fallible.run_bind_eq.mp ends
    dsimp only at last
    -- Only an id in use can still be refused.
    split at last
    · cases last
    · cases last
      refine ⟨rfl, rfl, rfl, rfl, ?_⟩
      exact enrolAll_binds read
  · contradiction

/-- An accepted aspect is as it was declared. -/
theorem register_fulfils {declaration : AspectDeclaration β} {strictIds : Bool}
    {registration : Registration β}
    (ran : (register declaration strictIds).run.run registry = (.ok registration, after)) :
    registration.Fulfils declaration := by
  cases asked : declaration.options with
  | none =>
    simp only [register, asked] at ran
    cases ran
  | some options =>
    rw [register_of_options asked] at ran
    -- The id is the one that is asked for, if there is one.
    cases wanted : options.id with
    | some id =>
      rw [wanted] at ran
      obtain ⟨_, _, ⟨⟩, goes⟩ | ⟨_, ⟨⟩, _⟩ := Fallible.run_bind_eq.mp ran
      obtain ⟨named, order, typeName, objectId, advices⟩ := enter_fulfils goes
      refine ⟨⟨options, asked, order, fun other same => ?_⟩, typeName, objectId, advices⟩
      rw [wanted, Option.some.injEq] at same
      rw [named, same]
    | none =>
      rw [wanted] at ran
      obtain ⟨_, _, ⟨⟩, goes⟩ | ⟨_, ⟨⟩, _⟩ := Fallible.run_bind_eq.mp ran
      obtain ⟨_, order, typeName, objectId, advices⟩ := enter_fulfils goes
      refine ⟨⟨options, asked, order, fun other same => ?_⟩, typeName, objectId, advices⟩
      rw [wanted] at same
      contradiction

end AspectRegistry

/-- A use of a weaver that is meant to change which aspects are enabled. -/
inductive AspectStep (β : Type) where
  | enable (declaration : AspectDeclaration β)
  | enableAll (declarations : List (AspectDeclaration β))
  | disable (id : String)

/-- What came of enabling or of disabling one aspect. -/
inductive AspectEvent (β : Type) where
  | accepted (declaration : AspectDeclaration β) (registration : Registration β)
  | refused (declaration : AspectDeclaration β)
  | disabled (id : String)

namespace AspectEvent

/-- An event that enables or disables the aspect of an id; a refusal does neither. -/
def Concerns (id : String) : AspectEvent β → Prop
  | .accepted _ registration => registration.aspect.id = id
  | .refused _ => False
  | .disabled gone => gone = id

instance (id : String) : (event : AspectEvent β) → Decidable (event.Concerns id)
  | .accepted _ registration => inferInstanceAs (Decidable (registration.aspect.id = id))
  | .refused _ => inferInstanceAs (Decidable False)
  | .disabled gone => inferInstanceAs (Decidable (gone = id))

/-- Among events, newest first, an aspect was accepted under an id, and no later event concerns
the id. -/
def Stands (events : List (AspectEvent β)) (id : String) (declaration : AspectDeclaration β)
    (registration : Registration β) : Prop :=
  registration.aspect.id = id ∧ ∃ late early,
    events = late ++ .accepted declaration registration :: early ∧
      ∀ event ∈ late, ¬ event.Concerns id

variable {events : List (AspectEvent β)} {id : String} {declaration : AspectDeclaration β}
  {registration : Registration β}

/-- Before anything has happened nothing stands. -/
theorem not_stands_nil : ¬ Stands [] id declaration registration := by
  -- An aspect that stands has been accepted by some event.
  rintro ⟨_, late, early, same, _⟩
  simp at same

/-- After an event stands what it accepts, and what stood before under an id that it does not
concern. -/
theorem stands_cons {event : AspectEvent β} :
    Stands (event :: events) id declaration registration ↔
      if event.Concerns id then event = .accepted declaration registration
      else Stands events id declaration registration := by
  constructor
  · rintro ⟨named, late, early, same, after⟩
    -- The acceptance is the newest event, or one of the older ones.
    rcases List.cons_eq_append_iff.mp same with ⟨rfl, same⟩ | ⟨later, rfl, rfl⟩
    · obtain ⟨rfl, rfl⟩ := List.cons.inj same
      have concerns : Concerns id (.accepted declaration registration) := named
      rw [if_pos concerns]
    · obtain ⟨apart, after⟩ := List.forall_mem_cons.mp after
      rw [if_neg apart]
      exact ⟨named, later, early, rfl, after⟩
  · intro stands
    split at stands
    · next concerns =>
      subst stands
      exact ⟨concerns, [], events, rfl, by simp⟩
    · next apart =>
      obtain ⟨named, late, early, rfl, after⟩ := stands
      exact ⟨named, event :: late, early, rfl, List.forall_mem_cons.mpr ⟨apart, after⟩⟩

/-- A look-up by id that finds a part of the registration that stands, and nothing else. -/
def Tracks (events : List (AspectEvent β)) (part : Registration β → α)
    (lookUp : String → Option α) : Prop :=
  ∀ id value, lookUp id = some value ↔
    ∃ declaration registration, Stands events id declaration registration ∧
      part registration = value

variable {part : Registration β → α} {lookUp after : String → Option α}

/-- Before anything has happened nothing is found. -/
theorem tracks_nil (empty : ∀ id, lookUp id = none) : Tracks [] part lookUp := by
  -- Nothing is found, and nothing stands.
  intro id value
  rw [empty]
  refine ⟨fun same => by contradiction, ?_⟩
  rintro ⟨declaration, registration, stands, _⟩
  exact (not_stands_nil stands).elim

/-- An event changes only what is found under the ids that it concerns. -/
theorem Tracks.cons (tracks : Tracks events part lookUp) {event : AspectEvent β}
    (changed : ∀ id value, event.Concerns id → (after id = some value ↔
      ∃ declaration registration, event = .accepted declaration registration ∧
        part registration = value))
    (kept : ∀ id, ¬ event.Concerns id → after id = lookUp id) :
    Tracks (event :: events) part after := by
  -- The last event is what counts for the ids that it concerns, and all others are as before.
  intro id value
  simp only [stands_cons]
  by_cases concerns : event.Concerns id
  · simp only [if_pos concerns]
    exact changed id value concerns
  · simp only [if_neg concerns]
    rw [kept id concerns]
    exact tracks id value

/-- An acceptance is found under its id from now on. -/
theorem Tracks.accepted (tracks : Tracks events part lookUp)
    (changed : ∀ id, after id =
      if id = registration.aspect.id then some (part registration) else lookUp id) :
    Tracks (.accepted declaration registration :: events) part after := by
  -- The event concerns the id of the aspect.
  refine tracks.cons (fun id value named => ?_) fun id other => ?_
  · rw [changed, if_pos (Eq.symm named)]
    simp
  · rw [changed, if_neg (Ne.symm other)]

/-- A refusal changes nothing that is found. -/
theorem Tracks.refused (tracks : Tracks events part lookUp) :
    Tracks (.refused declaration :: events) part lookUp :=
  -- A refusal concerns no id.
  tracks.cons (fun _ _ concerns => concerns.elim) fun _ _ => rfl

/-- A disabled aspect is not found any more. -/
theorem Tracks.disabled (tracks : Tracks events part lookUp) {gone : String}
    (changed : ∀ id, after id = if id = gone then none else lookUp id) :
    Tracks (.disabled gone :: events) part after := by
  -- The event concerns the id that is gone.
  refine tracks.cons (fun id value named => ?_) fun id other => ?_
  · rw [changed, if_pos (Eq.symm named)]
    simp
  · rw [changed, if_neg (Ne.symm other)]

end AspectEvent

namespace AdviceIndex

/-- Under no key of the index an advice is listed twice. -/
def ListsOnce (index : AdviceIndex β) : Prop := ∀ key, (index.under key).Nodup

/-- Dropping the advices of an aspect lists none twice. -/
theorem ListsOnce.unregister {index : AdviceIndex β} (once : index.ListsOnce) (id : String) :
    (index.unregister id).ListsOnce := by
  intro key
  -- The lists under the keys are gone through only if the aspect is known.
  by_cases known : index.byAspect.contains id
  · rw [under_unregister known]
    exact (once key).filter _
  · have same : index.unregister id = index := if_neg known
    rw [same]
    exact once key

/-- Installing the advices of a newly enabled aspect lists none twice, as their numbers are new. -/
theorem ListsOnce.install {index : AdviceIndex β} (once : index.ListsOnce)
    {registry after : AspectRegistry} (roster : Roster registry index)
    {registration : Registration β}
    (registered : AspectRegistry.Registered registry after registration) :
    (registration.advices.foldl AdviceIndex.register index).ListsOnce := by
  -- New advices have higher numbers than all that are listed, and different ones.
  intro key
  rw [under_foldl_register]
  refine (once key).append (registered.nodup_adviceSeqs.of_map.filter _) fun advice old new => ?_
  have listed := (roster.listed.mp old).2
  have earlier := roster.below listed
  have later := (registered.adviceSeq_range (List.mem_filter.mp new).1).1
  omega

end AdviceIndex

namespace Weaver

open AspectEvent

/-- What comes of enabling an aspect. -/
def outcomeOf (weaver : Weaver β) (declaration : AspectDeclaration β) : AspectEvent β :=
  match weaver.registration? declaration with
  | some registration => .accepted declaration registration
  | none => .refused declaration

/-- What comes of enabling aspects one after the other, newest first. -/
def outcomesOf (weaver : Weaver β) : List (AspectDeclaration β) → List (AspectEvent β)
  | [] => []
  | declaration :: rest =>
    match weaver.registration? declaration with
    | none => [.refused declaration]
    | some registration =>
      (weaver.enable declaration).2.outcomesOf rest ++ [.accepted declaration registration]

/-- What becomes of a weaver by a step, and what has come of the step, newest first. -/
def take (weaver : Weaver β) : AspectStep β → Weaver β × List (AspectEvent β)
  | .enable declaration => ((weaver.enable declaration).2, [weaver.outcomeOf declaration])
  | .enableAll declarations => ((weaver.enableAll declarations).2, weaver.outcomesOf declarations)
  | .disable id => ((weaver.disable id).2, [.disabled id])

/-- What becomes of a weaver by steps, and what has come of them all, newest first. -/
def takeAll (weaver : Weaver β) : List (AspectStep β) → Weaver β × List (AspectEvent β)
  | [] => (weaver, [])
  | step :: rest =>
    let (next, events) := weaver.take step
    let (last, later) := next.takeAll rest
    (last, later ++ events)

/-- The aspect that enabling gives is that of the registration, and without one it is refused. -/
theorem enable_fst (weaver : Weaver β) (declaration : AspectDeclaration β) :
    (weaver.enable declaration).1.toOption =
      (weaver.registration? declaration).map Registration.aspect := by
  -- The answer is the aspect of the registration.
  unfold registration? enable
  rcases (AspectRegistry.register declaration weaver.config.strictAspectIds).run.run
    weaver.aspects with ⟨_ | registration, registry⟩ <;> rfl

/-- A registration is as it was declared. -/
theorem fulfils_of_registration? {weaver : Weaver β} {declaration : AspectDeclaration β}
    {registration : Registration β}
    (accepted : weaver.registration? declaration = some registration) :
    registration.Fulfils declaration := by
  -- The registration is the one that registering has given.
  unfold registration? at accepted
  rcases ran : (AspectRegistry.register declaration weaver.config.strictAspectIds).run.run
    weaver.aspects with ⟨_ | given, registry⟩ <;> rw [ran] at accepted
  · contradiction
  · obtain rfl : given = registration := by simpa [Except.toOption] using accepted
    exact AspectRegistry.register_fulfils ran

/-- Aspects, advices and index are what the events tell, newest first. -/
structure Told (weaver : Weaver β) (events : List (AspectEvent β)) : Prop where
  aspects : Tracks events Registration.aspect weaver.aspects.aspects.get?
  reached : ∃ enabled, weaver.Reached enabled ∧
    Tracks events Registration.advices enabled.get?
  once : weaver.advices.ListsOnce
  fulfilled : ∀ {declaration registration},
    .accepted declaration registration ∈ events → registration.Fulfils declaration

variable {weaver : Weaver β} {events : List (AspectEvent β)}

/-- Of a new weaver there is nothing to tell. -/
theorem told_ofConfig (config : Config) : (ofConfig config : Weaver β).Told [] where
  -- Nothing has happened yet.
  aspects := tracks_nil fun _ => rfl
  reached := ⟨Dictionary.empty, .new config, tracks_nil fun _ => rfl⟩
  once _ := List.nodup_nil
  fulfilled member := by contradiction

namespace Told

variable (told : weaver.Told events)
include told

/-- Enabling an aspect, accepted or refused, is told by its outcome. -/
theorem enable (declaration : AspectDeclaration β) :
    (weaver.enable declaration).2.Told (weaver.outcomeOf declaration :: events) := by
  obtain ⟨enabled, reached, tracks⟩ := told.reached
  unfold outcomeOf
  cases accepted : weaver.registration? declaration with
  | none =>
    -- A refusal has used numbers up and changed nothing else.
    obtain ⟨advanced, same⟩ := enable_of_refused accepted
    refine ⟨?_, ⟨enabled, reached.refuse accepted, tracks.refused⟩, same ▸ told.once, ?_⟩
    · rw [advanced.aspects]
      exact told.aspects.refused
    · intro other registration member
      rcases List.mem_cons.mp member with same | earlier
      · contradiction
      · exact told.fulfilled earlier
  | some registration =>
    obtain ⟨after, registered, aspects, advices⟩ := enable_of_accepted accepted
    refine ⟨?_, ⟨_, reached.accept accepted, ?_⟩, ?_, ?_⟩
    · rw [aspects, registered.aspects]
      exact told.aspects.accepted fun id => Dictionary.get?_insert _ _ _ id
    · exact tracks.accepted fun id => Dictionary.get?_insert _ _ _ id
    · rw [advices]
      -- The advices of an aspect that is replaced go before the new ones come.
      split
      · exact (told.once.unregister _).install (reached.roster.unregister _) registered
      · exact told.once.install reached.roster registered
    · intro other held member
      rcases List.mem_cons.mp member with same | earlier
      · cases same
        exact fulfils_of_registration? accepted
      · exact told.fulfilled earlier

/-- Disabling an aspect is told. -/
theorem disable (id : String) : (weaver.disable id).2.Told (.disabled id :: events) := by
  -- The aspect goes from the registry, and its advices from the index.
  obtain ⟨enabled, reached, tracks⟩ := told.reached
  obtain ⟨aspects, advices⟩ := disable_eq weaver id
  refine ⟨?_, ⟨_, reached.disable id, ?_⟩, ?_, ?_⟩
  · rw [aspects]
    exact told.aspects.disabled fun other => Dictionary.get?_erase _ _ other
  · exact tracks.disabled fun other => Dictionary.get?_erase _ _ other
  · rw [advices]
    exact told.once.unregister id
  · intro declaration registration member
    rcases List.mem_cons.mp member with same | earlier
    · contradiction
    · exact told.fulfilled earlier

/-- Enabling aspects one after the other is told by their outcomes, up to the first refusal. -/
theorem enableAll (declarations : List (AspectDeclaration β)) :
    (weaver.enableAll declarations).2.Told (weaver.outcomesOf declarations ++ events) := by
  -- The induction is on the aspects that are still to be enabled.
  induction declarations generalizing weaver events with
  | nil => exact told
  | cons declaration rest ih =>
    have first := told.enable declaration
    have result := weaver.enable_fst declaration
    unfold Weaver.enableAll outcomesOf
    unfold outcomeOf at first
    rcases enabled : weaver.enable declaration with ⟨refusal | aspect, next⟩
    · -- Nothing is asked for after a refusal.
      have refused : weaver.registration? declaration = none := by
        simpa [enabled, Except.toOption] using result.symm
      simp only [enabled, refused] at first ⊢
      exact first
    · obtain ⟨registration, accepted, _⟩ : ∃ registration,
          weaver.registration? declaration = some registration ∧
            registration.aspect = aspect := by
        simpa [enabled, Except.toOption] using result.symm
      simp only [enabled, accepted, List.append_assoc, List.singleton_append] at first ⊢
      exact ih first

/-- Every step is told. -/
theorem take (step : AspectStep β) :
    (weaver.take step).1.Told ((weaver.take step).2 ++ events) := by
  -- Each step has its own lemma.
  cases step with
  | enable declaration => exact told.enable declaration
  | enableAll declarations => exact told.enableAll declarations
  | disable id => exact told.disable id

/-- All steps are told. -/
theorem takeAll (steps : List (AspectStep β)) :
    (weaver.takeAll steps).1.Told ((weaver.takeAll steps).2 ++ events) := by
  -- The induction is on the steps that are still to be taken.
  induction steps generalizing weaver events with
  | nil => exact told
  | cons step rest ih =>
    have later := ih (told.take step)
    simpa only [Weaver.takeAll, List.append_assoc] using later

end Told

/-- Registry and index hold exactly what stands among the events, newest first, and only an accepted
aspect or one that is disabled can change this. -/
structure Holds (weaver : Weaver β) (events : List (AspectEvent β)) : Prop where
  enabled : ∀ id aspect, weaver.aspects.get? id = some aspect ↔
    ∃ declaration registration, Stands events id declaration registration ∧
      registration.aspect = aspect
  advices : ∀ {id declaration registration}, Stands events id declaration registration →
    weaver.advices.ofAspect id = registration.advices ∧ registration.Fulfils declaration
  none : ∀ id, weaver.aspects.get? id = none → weaver.advices.ofAspect id = []
  once : ∀ key, (weaver.advices.under key).Nodup
  listed : ∀ key advice, advice ∈ weaver.advices.under key ↔
    key ∈ advice.keys ∧ ∃ id declaration registration,
      Stands events id declaration registration ∧ advice ∈ registration.advices
  refused : ∀ declaration refusal, (weaver.enable declaration).1 = .error refusal →
    (weaver.enable declaration).2.aspects.aspects = weaver.aspects.aspects ∧
      (weaver.enable declaration).2.advices = weaver.advices
  disabled : ∀ id, (weaver.disable id).1 = (weaver.aspects.get? id).isSome
  unknown : ∀ id, weaver.aspects.get? id = Option.none →
    (weaver.disable id).2.aspects.aspects = weaver.aspects.aspects ∧
      (weaver.disable id).2.advices = weaver.advices

end Weaver

end AspectWeaving
