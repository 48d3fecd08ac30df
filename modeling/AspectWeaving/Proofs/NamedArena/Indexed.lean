import AspectWeaving.Dictionary
import AspectWeaving.Proofs.Dictionary
import AspectWeaving.Proofs.NamedArena.Calls

/-! An arena kept in two tables, one of slots that know no names and one from names to slots, stays
in step with the arena whose slots know their names; so no name ever points at an empty slot. -/

namespace AspectWeaving

/-- Values in numbered slots, the free slots, and the slot of each name in a table of its own. -/
structure IndexedArena (α : Type) where
  slots : List (Option α)
  free : List Nat
  ids : Dictionary String Nat

namespace IndexedArena

variable {α : Type}

/-- An arena with four free slots, lowest first, and no names. -/
def empty : IndexedArena α := ⟨List.replicate 4 none, List.range 4, Dictionary.empty⟩

/-- The value in a slot. -/
def get? (indexed : IndexedArena α) (id : Nat) : Option α := indexed.slots[id]?.join

/-- The value under a name; a name that points at an empty slot is a fault. -/
def find (indexed : IndexedArena α) (name : String) : Except Nat (Option α) :=
  match indexed.ids.get? name with
  | none => .ok none
  | some id =>
    match indexed.get? id with
    | some value => .ok (some value)
    | none => .error id

/-- An arena with twice the slots, the new ones free in increasing order. -/
def grow (indexed : IndexedArena α) : IndexedArena α :=
  { indexed with
    slots := indexed.slots ++ List.replicate indexed.slots.length none
    free := indexed.free ++ List.range' indexed.slots.length indexed.slots.length }

/-- Puts a value into the first free slot, if there is one. -/
def place (indexed : IndexedArena α) (value : α) : Nat × IndexedArena α :=
  match indexed.free with
  | [] => (0, indexed)
  | id :: free => (id, { indexed with slots := indexed.slots.set id (some value), free })

/-- Adds a value to the slots, and then its slot to the names, unless the name is known. -/
def add (indexed : IndexedArena α) (name : String) (value : α) : Nat × IndexedArena α :=
  match indexed.ids.get? name with
  | some id => (id, indexed)
  | none =>
    let (id, placed) := (if indexed.free.isEmpty then indexed.grow else indexed).place value
    (id, { placed with ids := placed.ids.insert name id })

/-- Takes the value out of a slot, which is the next to be handed out; an empty slot stays so. -/
def vacate (indexed : IndexedArena α) (id : Nat) : Option α × IndexedArena α :=
  match indexed.get? id with
  | none => (none, indexed)
  | some value =>
    (some value, { indexed with slots := indexed.slots.set id none, free := id :: indexed.free })

/-- Takes a name out, and then the value of the slot that it points at. -/
def remove (indexed : IndexedArena α) (name : String) : Option α × IndexedArena α :=
  match indexed.ids.get? name with
  | none => (none, indexed)
  | some id => { indexed with ids := indexed.ids.erase name }.vacate id

/-- What becomes of an arena in two tables by a call. -/
def perform (indexed : IndexedArena α) : NamedArena.Call α → IndexedArena α
  | .add name value => (indexed.add name value).2
  | .remove name => (indexed.remove name).2

/-- What becomes of an arena in two tables by calls, the first of them first. -/
def performAll (indexed : IndexedArena α) (calls : List (NamedArena.Call α)) : IndexedArena α :=
  calls.foldl perform indexed

/-- The tables hold what an arena holds: the slots its values, and the names their slots. -/
structure Splits (arena : NamedArena α) (indexed : IndexedArena α) : Prop where
  slots : indexed.slots = arena.slots.map (Option.map Prod.snd)
  free : indexed.free = arena.free
  ids : ∀ name, indexed.ids.get? name = arena.idOf? name

namespace Splits

variable {arena : NamedArena α} {indexed : IndexedArena α}

/-- Without values the tables are those of the arena without values. -/
theorem empty : Splits (NamedArena.empty : NamedArena α) IndexedArena.empty where
  -- Both start with as many empty slots.
  slots := by simp [NamedArena.empty, IndexedArena.empty]
  free := rfl
  ids _ := rfl

variable (splits : Splits arena indexed)
include splits

/-- A slot of the tables has the value that it has in the arena. -/
theorem get?_eq (id : Nat) : indexed.get? id = arena.get? id := by
  unfold IndexedArena.get? NamedArena.get?
  rw [splits.slots, List.getElem?_map]
  -- A slot is beyond the arena, or free, or holds a value.
  rcases arena.slots[id]? with _ | _ | entry <;> rfl

/-- Growing keeps the tables in step. -/
theorem grow : Splits arena.grow indexed.grow where
  -- Both are given as many empty slots.
  slots := by simp [NamedArena.grow, IndexedArena.grow, splits.slots]
  free := by simp [NamedArena.grow, IndexedArena.grow, splits.slots, splits.free]
  ids name := by
    rw [NamedArena.idOf?_grow]
    exact splits.ids name

/-- A value goes into the same slot of the table as of the arena. -/
theorem place (name : String) (value : α) :
    (indexed.place value).1 = (arena.place name value).1 ∧
      (indexed.place value).2.slots =
        (arena.place name value).2.slots.map (Option.map Prod.snd) ∧
      (indexed.place value).2.free = (arena.place name value).2.free ∧
      (indexed.place value).2.ids = indexed.ids := by
  -- The first free slot is taken, or a new one.
  unfold IndexedArena.place NamedArena.place
  rw [splits.free]
  cases arena.free with
  | nil => exact ⟨rfl, splits.slots, splits.free, rfl⟩
  | cons slot rest => exact ⟨rfl, by simp [splits.slots, List.map_set], rfl, rfl⟩

/-- Adding gives the same slot, and keeps the tables in step. -/
theorem add (formed : arena.WellFormed) (name : String) (value : α) :
    (indexed.add name value).1 = (arena.add name value).1 ∧
      Splits (arena.add name value).2 (indexed.add name value).2 := by
  cases known : arena.idOf? name with
  | some id =>
    have told : indexed.ids.get? name = some id := (splits.ids name).trans known
    simp only [IndexedArena.add, NamedArena.add, known, told]
    exact ⟨trivial, splits⟩
  | none =>
    have told : indexed.ids.get? name = none := (splits.ids name).trans known
    -- Both are grown, or neither is.
    have roomy : Splits (if arena.free.isEmpty then arena.grow else arena)
        (if indexed.free.isEmpty then indexed.grow else indexed) := by
      rw [splits.free]
      split
      · exact splits.grow
      · exact splits
    obtain ⟨slot, slots, free, ids⟩ := roomy.place name value
    have same : (indexed.add name value).1 = (arena.add name value).1 := by
      simpa only [IndexedArena.add, NamedArena.add, known, told] using slot
    refine ⟨same, ?_, ?_, fun asked => ?_⟩
    · simpa only [IndexedArena.add, NamedArena.add, known, told] using slots
    · simpa only [IndexedArena.add, NamedArena.add, known, told] using free
    · -- The name points at the slot that is answered.
      have inserted : (indexed.add name value).2.ids =
          indexed.ids.insert name (indexed.add name value).1 := by
        simp only [IndexedArena.add, told, ids]
        split <;> rfl
      rw [inserted, Dictionary.get?_insert, formed.idOf?_add, same, splits.ids]

/-- Removing gives the same value back, and keeps the tables in step. -/
theorem remove (formed : arena.WellFormed) (name : String) :
    (indexed.remove name).1 = (arena.remove name).1 ∧
      Splits (arena.remove name).2 (indexed.remove name).2 := by
  cases known : arena.idOf? name with
  | none =>
    have told : indexed.ids.get? name = none := (splits.ids name).trans known
    simp only [IndexedArena.remove, NamedArena.remove, known, told]
    exact ⟨trivial, splits⟩
  | some id =>
    have told : indexed.ids.get? name = some id := (splits.ids name).trans known
    -- The slot that the name points at is not empty, and so it is vacated.
    obtain ⟨value, holds⟩ := NamedArena.holds_of_idOf? known
    have occupied : indexed.get? id = some value := (splits.get?_eq id).trans holds.get?
    have vacated : indexed.remove name = (some value,
        { slots := indexed.slots.set id none, free := id :: indexed.free,
          ids := indexed.ids.erase name }) := by
      -- Which names there are makes no difference to what a slot holds.
      have unnamed : ({ indexed with ids := indexed.ids.erase name } : IndexedArena α).get? id =
          some value := occupied
      simp only [IndexedArena.remove, told, vacate, unnamed]
    have removed :
        arena.remove name = (some value, ⟨arena.slots.set id none, id :: arena.free⟩) := by
      simp only [NamedArena.remove, known, holds.get?]
    have ids := formed.idOf?_remove name
    rw [removed] at ids ⊢
    rw [vacated]
    refine ⟨rfl, ?_, congrArg (id :: ·) splits.free, fun asked => ?_⟩
    · simp [splits.slots, List.map_set]
    · rw [Dictionary.get?_erase, ids, splits.ids]

/-- The value under a name is the one that the arena has; no name points at an empty slot. -/
theorem find_eq (name : String) : indexed.find name = .ok (arena.find? name) := by
  -- An id that is known has a slot that is not empty.
  unfold IndexedArena.find NamedArena.find?
  rw [splits.ids]
  cases known : arena.idOf? name with
  | none => rfl
  | some id =>
    obtain ⟨value, holds⟩ := NamedArena.holds_of_idOf? known
    simp [splits.get?_eq, holds.get?]

/-- A call keeps the tables in step. -/
theorem perform (formed : arena.WellFormed) (call : NamedArena.Call α) :
    Splits (arena.perform call) (indexed.perform call) := by
  -- Both calls have their lemmas.
  cases call with
  | add name value => exact (splits.add formed name value).2
  | remove name => exact (splits.remove formed name).2

omit splits in
/-- Calls keep the tables in step. -/
theorem performAll (splits : Splits arena indexed) (formed : arena.WellFormed)
    (calls : List (NamedArena.Call α)) :
    Splits (arena.performAll calls) (indexed.performAll calls) := by
  -- The induction is on the calls that are still to be made.
  induction calls generalizing arena indexed with
  | nil => exact splits
  | cons call rest ih => exact ih (splits.perform formed call) (formed.perform call)

end Splits

/-- The tables answer every call and every question as the arena does, and without a fault. -/
structure Agrees (arena : NamedArena α) (indexed : IndexedArena α) : Prop where
  find : ∀ name, indexed.find name = .ok (arena.find? name)
  get? : ∀ id, indexed.get? id = arena.get? id
  add : ∀ name value, (indexed.add name value).1 = (arena.add name value).1
  remove : ∀ name, (indexed.remove name).1 = (arena.remove name).1

/-- Tables that hold what a well-formed arena holds answer as it does. -/
theorem Splits.agrees {arena : NamedArena α} {indexed : IndexedArena α}
    (splits : Splits arena indexed) (formed : arena.WellFormed) : Agrees arena indexed where
  -- Each question has its lemma.
  find := splits.find_eq
  get? := splits.get?_eq
  add name value := (splits.add formed name value).1
  remove name := (splits.remove formed name).1

end IndexedArena

end AspectWeaving
