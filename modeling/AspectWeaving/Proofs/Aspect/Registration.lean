import AspectWeaving.Aspect.Registry
import AspectWeaving.Proofs.Dictionary
import AspectWeaving.Proofs.Fallible

/-! What a registration makes of the registry of aspects, accepted or refused. -/

namespace AspectWeaving.AspectRegistry

variable {β : Type} {registry after : AspectRegistry}

/-- The same aspects are enabled, and no sequence number of an advice has been taken back. -/
structure Advanced (before after : AspectRegistry) : Prop where
  aspects : after.aspects = before.aspects
  nextAdvice : before.nextAdvice ≤ after.nextAdvice

/-- Advices of one aspect that have been numbered one after the other. -/
structure Numbered (id : String) (before after : AspectRegistry) (advices : List (Advice β)) :
    Prop where
  aspects : after.aspects = before.aspects
  nextAdvice : after.nextAdvice = before.nextAdvice + advices.length
  owned : ∀ advice ∈ advices, advice.aspectId = id
  seqs : advices.map (fun advice => advice.precedence.adviceSeq) =
    List.range' before.nextAdvice advices.length

/-- Numbering advices takes no number back. -/
theorem Numbered.advanced {id : String} {advices : List (Advice β)}
    (numbered : Numbered id registry after advices) : Advanced registry after := by
  -- The next number is as many higher as there are advices.
  refine ⟨numbered.aspects, ?_⟩
  have next := numbered.nextAdvice
  omega

/-- Changes that take no number back add up. -/
theorem Advanced.trans {between : AspectRegistry} (first : Advanced registry between)
    (second : Advanced between after) : Advanced registry after :=
  -- Both steps leave the aspects, and the next number only goes up.
  ⟨second.aspects.trans first.aspects, Nat.le_trans first.nextAdvice second.nextAdvice⟩

/-- An advice before numbered advices is numbered with them. -/
theorem Numbered.cons {id : String} {between : AspectRegistry} {advice : Advice β}
    {advices : List (Advice β)} (first : Numbered id registry between [advice])
    (others : Numbered id between after advices) :
    Numbered id registry after (advice :: advices) := by
  -- The first advice takes one number and the others go on behind it.
  have next := first.nextAdvice
  have last := others.nextAdvice
  refine ⟨others.aspects.trans first.aspects, ?_, ?_, ?_⟩
  · simp only [List.length_cons, List.length_nil] at next ⊢
    omega
  · simpa using ⟨first.owned advice (List.mem_singleton_self advice), others.owned⟩
  · have seq := first.seqs
    simp only [List.map_cons, List.map_nil, List.length_singleton, List.range'_one,
      List.cons.injEq, and_true] at seq
    rw [List.map_cons, others.seqs, seq, next, List.length_singleton, List.length_cons,
      List.range'_succ]

/-- Entering an advice gives it the next number; one that cannot be read takes none. -/
theorem enrol_run {id : String} {order : Order} {seq : Nat}
    {declaration : AdviceDeclaration β} {result : Except RegistrationError (Advice β)}
    (ran : (enrol id order seq declaration).run.run registry = (result, after)) :
    match result with
    | .error _ => after = registry
    | .ok advice => Numbered id registry after [advice] := by
  unfold enrol at ran
  -- A pointcut that cannot be read is reported before a number is taken.
  cases read : Pointcut.parse declaration.phase declaration.expression with
  | error source =>
    simp only [read] at ran
    cases ran
    rfl
  | ok pointcut =>
    simp only [read] at ran
    cases ran
    exact ⟨rfl, rfl, by simp, by simp⟩

/-- What entering advices leaves, those that were entered before a failure included. -/
def Enrolled (id : String) (before after : AspectRegistry) :
    Except RegistrationError (List (Advice β)) → Prop
  | .error _ => Advanced before after
  | .ok advices => Numbered id before after advices

/-- Entering advices numbers them in their order, up to the first that cannot be read. -/
theorem enrolAll_run {id : String} {order : Order} {seq : Nat}
    {declarations : List (AdviceDeclaration β)}
    {result : Except RegistrationError (List (Advice β))}
    (ran : (declarations.mapM (enrol id order seq)).run.run registry = (result, after)) :
    Enrolled id registry after result := by
  -- The induction is on the declarations that are still to be read.
  induction declarations generalizing registry after result with
  | nil =>
    rw [List.mapM_nil] at ran
    obtain ⟨rfl, rfl⟩ := Fallible.run_pure_eq.mp ran
    exact ⟨rfl, rfl, by simp, by simp⟩
  | cons declaration rest ih =>
    rw [List.mapM_cons] at ran
    obtain ⟨advice, between, read, goes⟩ | ⟨fault, unread, rfl⟩ := Fallible.run_bind_eq.mp ran
    · -- What was entered before a failure has used its numbers up.
      have first := enrol_run read
      obtain ⟨advices, last, others, ends⟩ | ⟨fault, stopped, rfl⟩ :=
        Fallible.run_bind_eq.mp goes
      · obtain ⟨rfl, rfl⟩ := Fallible.run_pure_eq.mp ends
        exact first.cons (ih others)
      · exact first.advanced.trans (ih stopped)
    · obtain rfl : after = registry := enrol_run unread
      exact ⟨rfl, Nat.le_refl _⟩

/-- What a registration leaves. -/
structure Registered (before after : AspectRegistry) (registration : Registration β) : Prop where
  replaced : registration.replaced = before.aspects.contains registration.aspect.id
  aspects : after.aspects = before.aspects.insert registration.aspect.id registration.aspect
  nextAdvice : after.nextAdvice = before.nextAdvice + registration.advices.length
  owned : ∀ advice ∈ registration.advices, advice.aspectId = registration.aspect.id
  seqs : registration.advices.map (fun advice => advice.precedence.adviceSeq) =
    List.range' before.nextAdvice registration.advices.length

namespace Registered

variable {registration : Registration β} (registered : Registered registry after registration)
include registered

/-- The numbers of new advices are those that were not taken before. -/
theorem adviceSeq_range {advice : Advice β} (new : advice ∈ registration.advices) :
    registry.nextAdvice ≤ advice.precedence.adviceSeq ∧
      advice.precedence.adviceSeq < after.nextAdvice := by
  -- The numbers are those from the next one on, one for each advice.
  have seq := List.mem_map_of_mem (f := fun advice => advice.precedence.adviceSeq) new
  rw [registered.seqs, List.mem_range'_1] at seq
  rw [registered.nextAdvice]
  exact seq

/-- No two new advices have one number. -/
theorem nodup_adviceSeqs :
    (registration.advices.map fun advice => advice.precedence.adviceSeq).Nodup := by
  -- Numbers in a row are different.
  rw [registered.seqs]
  exact List.nodup_range'

end Registered

/-- Enters an aspect once its id is chosen. -/
def enter (declaration : AspectDeclaration β) (order : Order) (strictIds : Bool) (id : String) :
    Registering (Registration β) := do
  let seq ← takeAspectSeq
  let advices ← declaration.advices.mapM (enrol id order seq)
  let replaced := (← get).aspects.contains id
  if replaced && strictIds then throw (.duplicateId id)
  let aspect := ⟨id, order, declaration.typeName, declaration.objectId, seq⟩
  modify fun registry => { registry with aspects := registry.aspects.insert id aspect }
  return ⟨aspect, advices, replaced⟩

/-- A declaration with options is entered under the id it asks for, or under a generated one. -/
theorem register_of_options {declaration : AspectDeclaration β} {strictIds : Bool}
    {options : AspectOptions} (asked : declaration.options = some options) :
    register declaration strictIds =
      (match options.id with
      | some id => pure id
      | none => generateId declaration.typeName) >>=
        enter declaration (options.order.getD .lowest) strictIds := by
  simp only [register, asked]
  -- The id is asked for or generated.
  cases options.id <;> rfl

/-- What a registration leaves, accepted or refused. -/
def Left (before after : AspectRegistry) : Except RegistrationError (Registration β) → Prop
  | .error _ => Advanced before after
  | .ok registration => Registered before after registration

/-- Only the aspects and the numbers of advices matter for what a registration leaves. -/
theorem Left.of_same {before : AspectRegistry} {result : Except RegistrationError (Registration β)}
    (left : Left before after result) (aspects : before.aspects = registry.aspects)
    (nextAdvice : before.nextAdvice = registry.nextAdvice) : Left registry after result := by
  -- Both outcomes speak of the aspects and the numbers only.
  cases result with
  | error fault =>
    have advanced : Advanced before after := left
    exact ⟨aspects ▸ advanced.aspects, nextAdvice ▸ advanced.nextAdvice⟩
  | ok registration =>
    have registered : Registered before after registration := left
    exact ⟨aspects ▸ registered.replaced, aspects ▸ registered.aspects,
      nextAdvice ▸ registered.nextAdvice, registered.owned, nextAdvice ▸ registered.seqs⟩

/-- Entering an aspect enables it with advices numbered in their order, unless it is refused. -/
theorem enter_run {declaration : AspectDeclaration β} {order : Order} {strictIds : Bool}
    {id : String} {result : Except RegistrationError (Registration β)}
    (ran : (enter declaration order strictIds id).run.run registry = (result, after)) :
    Left registry after result := by
  -- Taking a number for the aspect changes neither the aspects nor the numbers of advices.
  obtain ⟨seq, _, ⟨⟩, goes⟩ | ⟨_, ⟨⟩, _⟩ := Fallible.run_bind_eq.mp ran
  have left : Left { registry with nextAspect := registry.nextAspect + 1 } after result := by
    obtain ⟨advices, entered, read, ends⟩ | ⟨fault, unread, rfl⟩ := Fallible.run_bind_eq.mp goes
    · have numbered : Numbered id _ entered advices := enrolAll_run read
      obtain ⟨_, _, ⟨⟩, last⟩ | ⟨_, ⟨⟩, _⟩ := Fallible.run_bind_eq.mp ends
      -- An id in use is refused in strict mode, after the advices were numbered.
      dsimp only at last
      split at last
      · cases last
        exact numbered.advanced
      · cases last
        refine ⟨?_, ?_, numbered.nextAdvice, numbered.owned, numbered.seqs⟩
        · rw [numbered.aspects]
        · simp only [numbered.aspects]
    · -- An advice that cannot be read ends the registration.
      exact enrolAll_run unread
  exact left.of_same rfl rfl

/-- A registration enables one aspect with advices numbered in their order; a refused one leaves
the enabled aspects as they are. -/
theorem register_run {declaration : AspectDeclaration β} {strictIds : Bool}
    {result : Except RegistrationError (Registration β)}
    (ran : (register declaration strictIds).run.run registry = (result, after)) :
    Left registry after result := by
  -- A declaration without options is refused at once.
  cases asked : declaration.options with
  | none =>
    simp only [register, asked] at ran
    cases ran
    exact ⟨rfl, Nat.le_refl _⟩
  | some options =>
    rw [register_of_options asked] at ran
    -- Generating an id takes a number for ids, which is none of those for advices.
    cases wanted : options.id with
    | some id =>
      rw [wanted] at ran
      obtain ⟨_, _, ⟨⟩, goes⟩ | ⟨_, ⟨⟩, _⟩ := Fallible.run_bind_eq.mp ran
      exact enter_run goes
    | none =>
      rw [wanted] at ran
      obtain ⟨_, _, ⟨⟩, goes⟩ | ⟨_, ⟨⟩, _⟩ := Fallible.run_bind_eq.mp ran
      exact (enter_run goes).of_same rfl rfl

end AspectWeaving.AspectRegistry
