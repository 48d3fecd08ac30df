/-! Arenas whose values have a name and a numbered slot; a slot freed last is reused first. -/

namespace AspectWeaving

/-- Named values in numbered slots, and the free slots in the order in which they are handed out. -/
structure NamedArena (α : Type) where
  slots : List (Option (String × α))
  free : List Nat
deriving Repr

namespace NamedArena

variable {α : Type}

/-- An arena with four free slots, lowest first. -/
def empty : NamedArena α := ⟨List.replicate 4 none, List.range 4⟩

instance : EmptyCollection (NamedArena α) := ⟨empty⟩

instance : Inhabited (NamedArena α) := ⟨empty⟩

/-- The slot of a name. -/
def idOf? (arena : NamedArena α) (name : String) : Option Nat :=
  arena.slots.findIdx? fun slot => slot.any fun entry => entry.1 == name

/-- The value in a slot. -/
def get? (arena : NamedArena α) (id : Nat) : Option α :=
  (arena.slots[id]?.join).map Prod.snd

/-- The value under a name. -/
def find? (arena : NamedArena α) (name : String) : Option α :=
  (arena.idOf? name).bind arena.get?

/-- Whether a name is in use. -/
def contains (arena : NamedArena α) (name : String) : Bool := (arena.idOf? name).isSome

/-- The number of values. -/
def size (arena : NamedArena α) : Nat := arena.slots.countP Option.isSome

/-- The values with their slots, in slot order. -/
def toList (arena : NamedArena α) : List (Nat × α) :=
  arena.slots.zipIdx.filterMap fun pair => pair.1.map fun entry => (pair.2, entry.2)

/-- An arena with twice the slots, the new ones free in increasing order. -/
def grow (arena : NamedArena α) : NamedArena α where
  slots := arena.slots ++ List.replicate arena.slots.length none
  -- The slots that are free already are handed out first.
  free := arena.free ++ List.range' arena.slots.length arena.slots.length

/-- Puts a value into the first free slot, if there is one. -/
def place (arena : NamedArena α) (name : String) (value : α) : Nat × NamedArena α :=
  match arena.free with
  | [] => (0, arena)
  | id :: free => (id, ⟨arena.slots.set id (some (name, value)), free⟩)

/-- Adds a value under a new name; a name in use keeps its slot and its value. -/
def add (arena : NamedArena α) (name : String) (value : α) : Nat × NamedArena α :=
  match arena.idOf? name with
  | some id => (id, arena)
  | none => (if arena.free.isEmpty then arena.grow else arena).place name value

/-- Takes the value under a name out of the arena; its slot is the next to be handed out. -/
def remove (arena : NamedArena α) (name : String) : Option α × NamedArena α :=
  match arena.idOf? name with
  | none => (none, arena)
  -- The list of free slots is a stack.
  | some id => (arena.get? id, ⟨arena.slots.set id none, id :: arena.free⟩)

end NamedArena

end AspectWeaving
