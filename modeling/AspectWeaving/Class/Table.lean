import AspectWeaving.Class.Basic
import AspectWeaving.Error
import AspectWeaving.NamedArena

/-! The table of live classes, in which classes of one name are told apart by a number. -/

namespace AspectWeaving

/-- The live classes under their references, and how often each name has been given out. -/
structure ClassTable (β : Type) where
  arena : NamedArena (ClassDescriptor β)
  homonyms : Dictionary String Nat

namespace ClassTable

variable {β : Type}

/-- The table without classes. -/
def empty : ClassTable β := ⟨NamedArena.empty, Dictionary.empty⟩

instance : Inhabited (ClassTable β) := ⟨empty⟩

/-- The name that a class is counted under; one without a name is anonymous. -/
def baseName (name : String) : String := if name.isEmpty then "anonymous" else name

/-- The reference of the class that is the given one to bear a name, counted from zero. -/
def referenceOf (base : String) (count : Nat) : String :=
  if count = 0 then base else base ++ "#" ++ toString count

/-- The live class in a slot. -/
def get? (table : ClassTable β) (id : ClassId) : Option (ClassDescriptor β) :=
  table.arena.get? id.number

/-- The live class in a slot, or the fault that there is none. -/
def get (table : ClassTable β) (id : ClassId) : Except WeavingError (ClassDescriptor β) :=
  match table.get? id with
  | some descriptor => .ok descriptor
  | none => .error (.unknownClass ("#" ++ toString id.number))

/-- The live class with a reference. -/
def getByReference? (table : ClassTable β) (reference : String) :
    Option (ClassId × ClassDescriptor β) := do
  let number ← table.arena.idOf? reference
  let descriptor ← table.arena.get? number
  return (⟨number⟩, descriptor)

/-- The number of live classes. -/
def size (table : ClassTable β) : Nat := table.arena.size

/-- How many classes have been given a name. -/
def homonymCount (table : ClassTable β) (base : String) : Nat := (table.homonyms.get? base).getD 0

/-- Adds a class whose parent, if it has one, is live. -/
def register (table : ClassTable β) (definition : ClassDefinition β) :
    Except WeavingError (ClassId × ClassTable β) := do
  if let some parent := definition.parent then
    let _ ← table.get parent
  let base := baseName definition.name
  let count := table.homonymCount base
  let reference := referenceOf base count
  -- A reference that is in use already gives the slot that it is used in.
  let (number, arena) := table.arena.add reference { definition with reference }
  return (⟨number⟩, ⟨arena, table.homonyms.insert base (count + 1)⟩)

/-- The reference given out last under a name of which so many have been given out. -/
def latestReference? (base : String) : Nat → Option String
  | 0 => none
  | count + 1 => some (referenceOf base count)

/-- Takes a class out; if it was the latest of its name, the name's number is free again. -/
def discard (table : ClassTable β) (id : ClassId) :
    Option (ClassDescriptor β) × ClassTable β :=
  match table.get? id with
  | none => (none, table)
  | some descriptor =>
    let (_, arena) := table.arena.remove descriptor.reference
    let base := baseName descriptor.name
    let count := table.homonymCount base
    -- The number is given back only if no later class has been numbered since.
    let homonyms :=
      if latestReference? base count = some descriptor.reference then
        table.homonyms.insert base (count - 1)
      else table.homonyms
    (some descriptor, ⟨arena, homonyms⟩)

end ClassTable

end AspectWeaving
