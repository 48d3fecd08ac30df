import AspectWeaving.Advice.Basic
import AspectWeaving.Aspect.Basic
import AspectWeaving.Dictionary
import AspectWeaving.Error

/-! The registry of enabled aspects, which gives out ids and sequence numbers. -/

namespace AspectWeaving

/-- The enabled aspects by id, the ids generated so far by type, and the next sequence numbers. -/
structure AspectRegistry where
  aspects : Dictionary String RegisteredAspect
  generatedIds : Dictionary String Nat
  nextAspect : Nat
  nextAdvice : Nat

/-- An accepted aspect, its advices, and whether it took the place of one with its id. -/
structure Registration (β : Type) where
  aspect : RegisteredAspect
  advices : List (Advice β)
  replaced : Bool

/-- A step of a registration; the numbers that it has used stay used if it fails. -/
abbrev Registering : Type → Type := ExceptT RegistrationError (StateM AspectRegistry)

namespace AspectRegistry

variable {β : Type}

/-- The registry without aspects. -/
def empty : AspectRegistry := ⟨Dictionary.empty, Dictionary.empty, 0, 0⟩

/-- The ids of the enabled aspects. -/
def ids (registry : AspectRegistry) : List String := registry.aspects.keys

/-- The enabled aspect with an id. -/
def get? (registry : AspectRegistry) (id : String) : Option RegisteredAspect :=
  registry.aspects.get? id

/-- The id of the next aspect of a type that asks for none. -/
def generateId (typeName : String) : Registering String := do
  let registry ← get
  let count := (registry.generatedIds.get? typeName).getD 0
  set { registry with generatedIds := registry.generatedIds.insert typeName (count + 1) }
  return typeName ++ "#" ++ toString count

/-- The next sequence number of an aspect. -/
def takeAspectSeq : Registering Nat :=
  modifyGet fun registry =>
    (registry.nextAspect, { registry with nextAspect := registry.nextAspect + 1 })

/-- The next sequence number of an advice. -/
def takeAdviceSeq : Registering Nat :=
  modifyGet fun registry =>
    (registry.nextAdvice, { registry with nextAdvice := registry.nextAdvice + 1 })

/-- Reads the pointcut of a declared advice and gives the advice its place. -/
def enrol (id : String) (order : Order) (seq : Nat) (declaration : AdviceDeclaration β) :
    Registering (Advice β) := do
  match Pointcut.parse declaration.phase declaration.expression with
  | .error source =>
    throw (.pointcut id declaration.name declaration.expression source)
  | .ok pointcut =>
    let adviceSeq ← takeAdviceSeq
    return {
      name := declaration.name
      pointcut
      aspectId := id
      precedence := ⟨order, seq, declaration.order.getD .lowest, adviceSeq⟩
      body := declaration.body }

/-- Enters an aspect and its advices; with strict ids an id in use is refused. -/
def register (declaration : AspectDeclaration β) (strictIds : Bool) :
    Registering (Registration β) := do
  let some options := declaration.options
    | throw (.notAnAspect
        ⟨declaration.typeName, declaration.typeName ++ " is not an aspect"⟩)
  let id ←
    match options.id with
    | some id => pure id
    | none => generateId declaration.typeName
  let order := options.order.getD .lowest
  -- The numbers taken from here on stay taken if the aspect is refused below.
  let seq ← takeAspectSeq
  let advices ← declaration.advices.mapM (enrol id order seq)
  let replaced := (← get).aspects.contains id
  if replaced && strictIds then throw (.duplicateId id)
  let aspect := ⟨id, order, declaration.typeName, declaration.objectId, seq⟩
  modify fun registry => { registry with aspects := registry.aspects.insert id aspect }
  return ⟨aspect, advices, replaced⟩

/-- The registry without an aspect; the others keep their order. -/
def remove (registry : AspectRegistry) (id : String) : AspectRegistry :=
  { registry with aspects := registry.aspects.erase id }

end AspectRegistry

end AspectWeaving
