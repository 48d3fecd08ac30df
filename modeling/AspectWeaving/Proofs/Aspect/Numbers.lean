import AspectWeaving.Proofs.Aspect.Registration
import AspectWeaving.Proofs.Text.Separators

/-! The numbers and the id that a registration uses up, whether it is accepted or refused, and what
it can be refused for. -/

namespace AspectWeaving

variable {β : Type}

/-- A declaration all of whose pointcuts can be read. -/
def AspectDeclaration.Readable (declaration : AspectDeclaration β) : Prop :=
  ∀ advice ∈ declaration.advices,
    ∃ pointcut, Pointcut.parse advice.phase advice.expression = .ok pointcut

/-- The id that a declaration asks for. -/
def AspectDeclaration.askedId? (declaration : AspectDeclaration β) : Option String :=
  declaration.options.bind AspectOptions.id

namespace AspectRegistry

variable {registry between after : AspectRegistry}

/-- The number of ids that have been generated for a type. -/
def idCount (registry : AspectRegistry) (typeName : String) : Nat :=
  (registry.generatedIds.get? typeName).getD 0

/-- The id generated for an aspect of a type when so many have been generated for the type. -/
def generatedId (typeName : String) (count : Nat) : String := typeName ++ "#" ++ toString count

/-- The type and the count can be read off a generated id. -/
theorem generatedId_inj {typeName other : String} {count count' : Nat} :
    generatedId typeName count = generatedId other count' ↔ typeName = other ∧ count = count' := by
  refine ⟨fun same => ?_, fun ⟨types, counts⟩ => by rw [types, counts]⟩
  -- The last number sign stands before the count.
  have letters (text : String) (number : Nat) : (generatedId text number).toList =
      text.toList ++ '#' :: (toString number).toList := by simp [generatedId]
  have parts := congrArg String.toList same
  rw [letters, letters, Text.append_number_inj (by decide)] at parts
  exact ⟨String.toList_inj.mp parts.1, parts.2⟩

/-- The id of the next aspect of a type that asks for none. -/
def nextId (registry : AspectRegistry) (typeName : String) : String :=
  generatedId typeName (registry.idCount typeName)

/-- The registry once the next id of a type has been given out. -/
def countId (registry : AspectRegistry) (typeName : String) : AspectRegistry :=
  { registry with
    generatedIds := registry.generatedIds.insert typeName (registry.idCount typeName + 1) }

/-- At most so many numbers of advices have been taken, and nothing else has changed. -/
structure Drawn (most : Nat) (before after : AspectRegistry) : Prop where
  aspects : after.aspects = before.aspects
  generatedIds : after.generatedIds = before.generatedIds
  nextAspect : after.nextAspect = before.nextAspect
  nextAdvice : after.nextAdvice ≤ before.nextAdvice + most

/-- Numbers that are taken one after the other add up. -/
theorem Drawn.trans {first second : Nat} (one : Drawn first registry between)
    (other : Drawn second between after) : Drawn (second + first) registry after := by
  -- The numbers that are drawn add up.
  refine ⟨other.aspects.trans one.aspects, other.generatedIds.trans one.generatedIds,
    other.nextAspect.trans one.nextAspect, ?_⟩
  have some := one.nextAdvice
  have more := other.nextAdvice
  omega

/-- A refusal for a pointcut of some declared advices. -/
def Unread (declarations : List (AdviceDeclaration β)) (fault : RegistrationError) : Prop :=
  ∃ id, ∃ advice ∈ declarations, ∃ source,
    Pointcut.parse advice.phase advice.expression = .error source ∧
      fault = .pointcut id advice.name advice.expression source

/-- Entering an advice takes at most one number, and fails only for its pointcut. -/
theorem enrol_drawn {id : String} {order : Order} {seq : Nat}
    {declaration : AdviceDeclaration β} {result : Except RegistrationError (Advice β)}
    (ran : (enrol id order seq declaration).run.run registry = (result, after)) :
    Drawn 1 registry after ∧ ∀ fault, result = .error fault → Unread [declaration] fault := by
  -- A number is drawn before the expression is read, and it is used up if this fails.
  unfold enrol at ran
  cases read : Pointcut.parse declaration.phase declaration.expression with
  | error source =>
    simp only [read] at ran
    cases ran
    refine ⟨⟨rfl, rfl, rfl, Nat.le_add_right _ _⟩, fun fault same => ?_⟩
    exact ⟨id, declaration, List.mem_singleton_self _, source, read, (Except.error.inj same).symm⟩
  | ok pointcut =>
    simp only [read] at ran
    cases ran
    exact ⟨⟨rfl, rfl, rfl, Nat.le_refl _⟩, fun fault same => by contradiction⟩

/-- Entering advices takes at most a number for each, and fails only for one of their pointcuts. -/
theorem enrolAll_drawn {id : String} {order : Order} {seq : Nat}
    {declarations : List (AdviceDeclaration β)}
    {result : Except RegistrationError (List (Advice β))}
    (ran : (declarations.mapM (enrol id order seq)).run.run registry = (result, after)) :
    Drawn declarations.length registry after ∧
      ∀ fault, result = .error fault → Unread declarations fault := by
  -- The induction is on the declarations that are still to be read.
  induction declarations generalizing registry after result with
  | nil =>
    rw [List.mapM_nil] at ran
    obtain ⟨rfl, rfl⟩ := Fallible.run_pure_eq.mp ran
    exact ⟨⟨rfl, rfl, rfl, Nat.le_refl _⟩, fun fault same => by contradiction⟩
  | cons declaration rest ih =>
    -- A pointcut among the later ones is one of them all.
    have later {fault : RegistrationError} (unread : Unread rest fault) :
        Unread (declaration :: rest) fault := by
      obtain ⟨id, advice, member, source, read, same⟩ := unread
      exact ⟨id, advice, List.mem_cons_of_mem _ member, source, read, same⟩
    rw [List.mapM_cons] at ran
    obtain ⟨advice, between, read, goes⟩ | ⟨fault, unread, rfl⟩ := Fallible.run_bind_eq.mp ran
    · have first := (enrol_drawn read).1
      obtain ⟨advices, last, others, ends⟩ | ⟨fault, stopped, rfl⟩ :=
        Fallible.run_bind_eq.mp goes
      · obtain ⟨rfl, rfl⟩ := Fallible.run_pure_eq.mp ends
        exact ⟨first.trans (ih others).1, fun fault same => by contradiction⟩
      · obtain ⟨drawn, unread⟩ := ih stopped
        refine ⟨first.trans drawn, fun found same => later (unread found ?_)⟩
        rw [Except.error.inj same]
    · obtain ⟨drawn, refusal⟩ := enrol_drawn unread
      obtain ⟨id, advice, member, source, read, same⟩ := refusal fault rfl
      refine ⟨⟨drawn.aspects, drawn.generatedIds, drawn.nextAspect, ?_⟩, ?_⟩
      · have most := drawn.nextAdvice
        simp only [List.length_cons]
        omega
      · rintro found ⟨⟩
        rw [List.mem_singleton] at member
        exact ⟨id, advice, member ▸ List.mem_cons_self, source, read, same⟩

/-- What entering an aspect under an id uses up, and what comes of it. -/
structure Entered (declaration : AspectDeclaration β) (id : String) (before after : AspectRegistry)
    (result : Except RegistrationError (Registration β)) : Prop where
  generatedIds : after.generatedIds = before.generatedIds
  nextAspect : after.nextAspect = before.nextAspect + 1
  nextAdvice : after.nextAdvice ≤ before.nextAdvice + declaration.advices.length
  accepted : ∀ registration, result = .ok registration →
    registration.aspect.id = id ∧ registration.aspect.seq = before.nextAspect
  refused : ∀ fault, result = .error fault → Unread declaration.advices fault ∨
    fault = .duplicateId id ∧ before.aspects.contains id = true

/-- Entering an aspect uses up one number for it and at most one for each of its advices. -/
theorem enter_entered {declaration : AspectDeclaration β} {order : Order} {strictIds : Bool}
    {id : String} {result : Except RegistrationError (Registration β)}
    (ran : (enter declaration order strictIds id).run.run registry = (result, after)) :
    Entered declaration id registry after result := by
  obtain ⟨seq, _, ⟨⟩, goes⟩ | ⟨_, ⟨⟩, _⟩ := Fallible.run_bind_eq.mp ran
  obtain ⟨advices, entered, read, ends⟩ | ⟨fault, unread, rfl⟩ := Fallible.run_bind_eq.mp goes
  · have drawn := (enrolAll_drawn read).1
    obtain ⟨_, _, ⟨⟩, last⟩ | ⟨_, ⟨⟩, _⟩ := Fallible.run_bind_eq.mp ends
    dsimp only at last
    -- An id in use is refused in strict mode, after all numbers have been taken.
    split at last
    · next refusing =>
      cases last
      refine ⟨drawn.generatedIds, drawn.nextAspect, drawn.nextAdvice, by simp, ?_⟩
      rintro fault ⟨⟩
      rw [Bool.and_eq_true] at refusing
      exact .inr ⟨rfl, drawn.aspects ▸ refusing.1⟩
    · cases last
      refine ⟨drawn.generatedIds, drawn.nextAspect, drawn.nextAdvice, ?_, by simp⟩
      rintro registration ⟨⟩
      exact ⟨rfl, rfl⟩
  · obtain ⟨drawn, refusal⟩ := enrolAll_drawn unread
    refine ⟨drawn.generatedIds, drawn.nextAspect, drawn.nextAdvice, by simp, ?_⟩
    rintro found ⟨⟩
    exact .inl (refusal fault rfl)

/-- The id that an aspect is entered under, and the registry that it is entered into: only giving
out an id changes it. -/
def named (registry : AspectRegistry) (declaration : AspectDeclaration β)
    (options : AspectOptions) : String × AspectRegistry :=
  match options.id with
  | some id => (id, registry)
  | none => (registry.nextId declaration.typeName, registry.countId declaration.typeName)

/-- What choosing an id leaves as it was, and what comes of it if the id is generated. -/
structure Named (declaration : AspectDeclaration β) (options : AspectOptions)
    (before : AspectRegistry) (id : String) (after : AspectRegistry) : Prop where
  aspects : after.aspects = before.aspects
  nextAspect : after.nextAspect = before.nextAspect
  nextAdvice : after.nextAdvice = before.nextAdvice
  counted : ∀ typeName, before.idCount typeName ≤ after.idCount typeName
  asked : ∀ wanted, options.id = some wanted → id = wanted
  generated : options.id = none → id = before.nextId declaration.typeName ∧
    before.idCount declaration.typeName < after.idCount declaration.typeName

/-- Choosing an id changes only how many ids have been generated. -/
theorem named_spec (registry : AspectRegistry) (declaration : AspectDeclaration β)
    (options : AspectOptions) :
    Named declaration options registry (registry.named declaration options).1
      (registry.named declaration options).2 := by
  -- An id that is asked for is taken as it is; any other counts the type up by one.
  unfold named
  cases wanted : options.id with
  | some id =>
    exact ⟨rfl, rfl, rfl, fun _ => Nat.le_refl _, by simp [wanted], by simp [wanted]⟩
  | none =>
    -- Only the count of this type goes up.
    have counted (typeName : String) :
        (registry.countId declaration.typeName).idCount typeName =
          if typeName = declaration.typeName then registry.idCount typeName + 1
          else registry.idCount typeName := by
      simp only [idCount, countId, Dictionary.get?_insert]
      split
      · next same => rw [same, Option.getD_some]
      · rfl
    refine ⟨rfl, rfl, rfl, fun typeName => ?_, by simp [wanted], fun _ => ⟨rfl, ?_⟩⟩
    · rw [counted]
      split <;> omega
    · rw [counted, if_pos rfl]
      omega

/-- An aspect is entered under the id that it asks for, or under the next one of its type. -/
theorem register_entered {declaration : AspectDeclaration β} {strictIds : Bool}
    {options : AspectOptions} {result : Except RegistrationError (Registration β)}
    (asked : declaration.options = some options)
    (ran : (register declaration strictIds).run.run registry = (result, after)) :
    Entered declaration (registry.named declaration options).1
      (registry.named declaration options).2 after result := by
  -- Registering is naming and then entering, whichever way the id comes.
  rw [register_of_options asked] at ran
  unfold named
  cases wanted : options.id with
  | some id =>
    rw [wanted] at ran
    obtain ⟨_, _, ⟨⟩, goes⟩ | ⟨_, ⟨⟩, _⟩ := Fallible.run_bind_eq.mp ran
    exact enter_entered goes
  | none =>
    rw [wanted] at ran
    obtain ⟨_, _, ⟨⟩, goes⟩ | ⟨_, ⟨⟩, _⟩ := Fallible.run_bind_eq.mp ran
    exact enter_entered goes

/-- What is declared without options is refused before anything is used up. -/
theorem register_of_no_options {declaration : AspectDeclaration β} {strictIds : Bool}
    {result : Except RegistrationError (Registration β)} (plain : declaration.options = none)
    (ran : (register declaration strictIds).run.run registry = (result, after)) :
    after = registry ∧ ∃ fault, result = .error fault ∧ ∀ id, fault ≠ .duplicateId id := by
  -- Without options nothing is done.
  simp only [register, plain] at ran
  cases ran
  exact ⟨rfl, _, rfl, by simp⟩

end AspectRegistry

end AspectWeaving
