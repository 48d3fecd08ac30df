import AspectWeaving.Proofs.Class.Lineage
import AspectWeaving.Proofs.NamedArena.Regrowth

/-! Undoing a registration: a class that is discarded as soon as it is registered leaves the table
as it was, except that the arena may have got its next slots already. -/

namespace AspectWeaving

namespace ClassTable

variable {β : Type} {table before after : ClassTable β} {id : ClassId}
  {definition : ClassDefinition β} {allowed : String → Prop}

/-- What registering classes and discarding classes without children makes of the table without
classes. -/
inductive Tended (allowed : String → Prop) : ClassTable β → Prop where
  | empty : Tended allowed empty
  | register {table after : ClassTable β} {definition : ClassDefinition β} {id : ClassId}
      (tended : Tended allowed table) (named : allowed definition.name)
      (registered : table.register definition = .ok (id, after)) : Tended allowed after
  | discard {table : ClassTable β} {id : ClassId} (tended : Tended allowed table)
      (last : table.Childless id) : Tended allowed (table.discard id).2

/-- A tended table is one that can be reached. -/
theorem Tended.reached (tended : Tended allowed table) : Reached allowed table := by
  -- Tending is reaching, with more asked of each discard.
  induction tended with
  | empty => exact .empty
  | register _ named registered reached => exact .register reached named registered
  | discard _ last reached => exact .discard _ reached

/-- In a tended table every live class has a way to a root, whatever the classes are named. -/
theorem Tended.rooted (tended : Tended allowed table) : table.Rooted := by
  -- The induction is on the sequence of registrations and removals.
  induction tended with
  | empty => exact rooted_empty
  | @register table after definition id tended named registered rooted =>
    have formed := tended.reached.wellFormed
    have parents := (register_eq_ok.mp registered).1
    -- A class whose reference a live one bears already is merged with it, and no way changes.
    cases taken : table.getByReference? (table.nextReference definition.name) with
    | none => exact rooted.creates (formed.creates registered taken) parents
    | some bearer => exact rooted.of_arena_eq (formed.register_merges registered taken).2
  | discard tended last rooted => exact rooted.discard tended.reached.wellFormed last

/-- What can be seen of a table that is another one again: the same classes in the same slots, and
the same numbers to give to the next ones. -/
structure Restored (before after : ClassTable β) : Prop where
  arena : before.arena.Regrown after.arena
  homonymCount : ∀ base, after.homonymCount base = before.homonymCount base

namespace Restored

/-- Every slot has the class that it had. -/
theorem get?_eq (restored : before.Restored after) (id : ClassId) :
    after.get? id = before.get? id := restored.arena.get?_eq id.number

/-- Every class has the ancestors that it had. -/
theorem ancestry_eq (restored : before.Restored after) (rooted : before.Rooted) (id : ClassId) :
    after.ancestry id = before.ancestry id := by
  cases live : before.get? id with
  | some descriptor =>
    obtain ⟨path, climbs⟩ := rooted live
    rw [climbs.ancestry_eq, (climbs.mono fun passed _ => restored.get?_eq passed).ancestry_eq]
  | none =>
    -- A class that is not there has no ancestors, however far the climb may go.
    have gone := (restored.get?_eq id).trans live
    have nowhere {table : ClassTable β} (absent : table.get? id = none) (bound : Nat) :
        table.climb bound id = [] := by cases bound <;> simp [climb, absent]
    unfold ancestry
    rw [nowhere gone, nowhere live]

/-- Every class has the lineage that it had. -/
theorem lineage_eq (restored : before.Restored after) (rooted : before.Rooted) (id : ClassId) :
    after.lineage id = before.lineage id := by
  -- A lineage is made of ancestries and descriptors.
  simp only [lineage, restored.ancestry_eq rooted, restored.get?_eq]

end Restored

end ClassTable

end AspectWeaving
