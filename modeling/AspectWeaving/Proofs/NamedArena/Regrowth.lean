import AspectWeaving.Proofs.NamedArena

/-! Undoing an addition: a value that is taken out as soon as it is added leaves the arena as it
was, except that the arena may have got its next slots already, which no later call can tell. -/

namespace AspectWeaving.NamedArena

variable {α : Type} {arena before after : NamedArena α}

/-- Growing keeps every name in its slot. -/
@[simp]
theorem idOf?_grow (arena : NamedArena α) (name : String) :
    arena.grow.idOf? name = arena.idOf? name := by
  -- None of the new slots holds a name.
  simp [idOf?, grow, List.findIdx?_append, List.findIdx?_replicate]

/-- Growing keeps every value in its slot. -/
@[simp]
theorem get?_grow (arena : NamedArena α) (id : Nat) : arena.grow.get? id = arena.get? id := by
  -- No slot holds anything else.
  refine Option.ext fun value => ?_
  simp only [get?_eq_some, holds_grow]

/-- An arena that is another one, or that one with the slots that its next value would need. -/
def Regrown (before after : NamedArena α) : Prop :=
  after = before ∨ before.free = [] ∧ after = before.grow

/-- Taking out what has just been put into a free slot gives the arena back. -/
theorem WellFormed.remove_place (formed : arena.WellFormed) (room : arena.free ≠ [])
    {name : String} (fresh : arena.idOf? name = none) (value : α) :
    ((arena.place name value).2.remove name).2 = arena := by
  obtain ⟨slot, rest, next⟩ := List.exists_cons_of_ne_nil room
  have vacant : arena.slots[slot]? = some none := (formed.memFree slot).mp (by simp [next])
  -- The name is found where the value was put.
  have holds : (arena.place name value).2.Holds slot name value :=
    (holds_place formed next name value).mpr (by simp)
  have found : (arena.place name value).2.idOf? name = some slot :=
    (formed.place next fresh value).idOf?_eq_some.mpr ⟨value, holds⟩
  unfold NamedArena.remove
  rw [found]
  -- The slot is emptied, and is again the first to be handed out.
  obtain ⟨within, empty⟩ := List.getElem?_eq_some_iff.mp vacant
  have slots : arena.slots.set slot none = arena.slots := by
    rw [← empty]
    exact List.set_getElem_self within
  obtain ⟨held, free⟩ := arena
  simp_all [NamedArena.place]

/-- Taking out what has just been added gives the arena back, or the arena as it had to be grown. -/
theorem WellFormed.regrown_remove_add (formed : arena.WellFormed) {name : String}
    (fresh : arena.idOf? name = none) (value : α) :
    arena.Regrown ((arena.add name value).2.remove name).2 := by
  unfold add
  rw [fresh]
  by_cases full : arena.free = []
  · -- Slots that were added are not taken away again.
    have restored := formed.grow.remove_place formed.free_grow
      ((idOf?_grow arena name).trans fresh) value
    exact .inr ⟨full, by simpa [full] using restored⟩
  · have restored := formed.remove_place full fresh value
    exact .inl (by simpa [full] using restored)

namespace Regrown

/-- A slot has the value that it had. -/
theorem get?_eq (regrown : before.Regrown after) (id : Nat) : after.get? id = before.get? id := by
  -- The arena is the same, or has grown.
  rcases regrown with rfl | ⟨_, rfl⟩ <;> simp

/-- The next value gets the slot that it would have got. -/
theorem add (regrown : before.Regrown after) (name : String) (value : α) :
    (after.add name value).1 = (before.add name value).1 ∧
      (before.add name value).2.Regrown (after.add name value).2 := by
  rcases regrown with rfl | ⟨full, rfl⟩
  · exact ⟨rfl, .inl rfl⟩
  · unfold NamedArena.add
    rw [idOf?_grow]
    cases before.idOf? name with
    | some id => exact ⟨rfl, .inr ⟨full, rfl⟩⟩
    | none =>
      -- The arena with free slots is not grown a second time, unless it has none at all.
      have same : (if before.grow.free.isEmpty then before.grow.grow else before.grow) =
          if before.free.isEmpty then before.grow else before := by
        by_cases bare : before.slots = []
        · have unchanged : before.grow = before := by
            obtain ⟨slots, free⟩ := before
            simp_all [grow]
          rw [unchanged, unchanged]
        · simp [full, grow, bare]
      dsimp only
      rw [same]
      exact ⟨rfl, .inl rfl⟩

end Regrown

/-- An arena that is another one, or that one with its next slots made already, whether or not it
has free ones left. -/
def Roomier (before after : NamedArena α) : Prop := after = before ∨ after = before.grow

/-- An arena that had to be grown is roomier. -/
theorem Regrown.roomier (regrown : before.Regrown after) : before.Roomier after :=
  regrown.imp_right And.right

/-- A value goes into the first free slot, whether or not there are more slots. -/
theorem WellFormed.place_grow (formed : arena.WellFormed) (room : arena.free ≠ []) (name : String)
    (value : α) : arena.grow.place name value =
      ((arena.place name value).1, (arena.place name value).2.grow) := by
  obtain ⟨slot, rest, next⟩ := List.exists_cons_of_ne_nil room
  -- The slot is one of those that were there before.
  have vacant : arena.slots[slot]? = some none := (formed.memFree slot).mp (by simp [next])
  have within : slot < arena.slots.length := (List.getElem?_eq_some_iff.mp vacant).1
  simp [NamedArena.place, NamedArena.grow, next, List.set_append_left slot _ within]

/-- Taking a value out frees its slot, whether or not there are more slots. -/
theorem remove_grow (arena : NamedArena α) (name : String) :
    arena.grow.remove name = ((arena.remove name).1, (arena.remove name).2.grow) := by
  -- The slot that is emptied is not one of the new ones.
  unfold NamedArena.remove
  rw [idOf?_grow]
  cases found : arena.idOf? name with
  | none => rfl
  | some slot =>
    obtain ⟨value, holds⟩ := holds_of_idOf? found
    have within : slot < arena.slots.length := (List.getElem?_eq_some_iff.mp holds).1
    dsimp only
    rw [get?_grow]
    simp [grow, List.set_append_left slot _ within]

/-- Growing shows no new values. -/
@[simp]
theorem toList_grow (arena : NamedArena α) : arena.grow.toList = arena.toList := by
  -- None of the new slots holds a value.
  have vacant : ∀ pair ∈ (List.replicate arena.slots.length (none : Option (String × α))).zipIdx
      arena.slots.length, (pair.1.map fun entry => (pair.2, entry.2)) = none := by
    intro pair member
    have empty : pair.1 = none := List.eq_of_mem_replicate (List.fst_mem_of_mem_zipIdx member)
    rw [empty, Option.map_none]
  simp only [toList, grow, List.zipIdx_append, List.filterMap_append, Nat.zero_add]
  rw [List.filterMap_eq_nil_iff.mpr vacant, List.append_nil]

/-- Two arenas that no call and no question can tell apart. -/
structure Alike (one other : NamedArena α) : Prop where
  idOf? : ∀ name, other.idOf? name = one.idOf? name
  contains : ∀ name, other.contains name = one.contains name
  get? : ∀ id, other.get? id = one.get? id
  find? : ∀ name, other.find? name = one.find? name
  size : other.size = one.size
  toList : other.toList = one.toList
  add : ∀ name value, (other.add name value).1 = (one.add name value).1
  remove : ∀ name, (other.remove name).1 = (one.remove name).1

namespace Roomier

/-- A roomier arena gives the next value the same slot, and stays roomier. -/
theorem add (roomier : before.Roomier after) (formed : before.WellFormed) (name : String)
    (value : α) : (after.add name value).1 = (before.add name value).1 ∧
      (before.add name value).2.Roomier (after.add name value).2 := by
  rcases roomier with rfl | rfl
  · exact ⟨rfl, .inl rfl⟩
  · by_cases full : before.free = []
    · -- An arena that is full grows now, to the same slots.
      have regrown : before.Regrown before.grow := .inr ⟨full, rfl⟩
      obtain ⟨slot, later⟩ := regrown.add name value
      exact ⟨slot, later.roomier⟩
    · have room : before.grow.free ≠ [] := formed.free_grow
      unfold NamedArena.add
      rw [idOf?_grow]
      cases before.idOf? name with
      | some id => exact ⟨rfl, .inr rfl⟩
      | none =>
        have notEmpty : before.free.isEmpty = false := by simpa using full
        have stillNot : before.grow.free.isEmpty = false := by simpa using room
        simp only [notEmpty, stillNot, Bool.false_eq_true, if_false, formed.place_grow full]
        exact ⟨trivial, .inr rfl⟩

/-- A roomier arena gives a removed value back as well, and stays roomier. -/
theorem remove (roomier : before.Roomier after) (name : String) :
    (after.remove name).1 = (before.remove name).1 ∧
      (before.remove name).2.Roomier (after.remove name).2 := by
  -- Growing first or last makes no difference.
  rcases roomier with rfl | rfl
  · exact ⟨rfl, .inl rfl⟩
  · rw [remove_grow]
    exact ⟨rfl, .inr rfl⟩

/-- A roomier arena cannot be told from the one that it comes of. -/
theorem alike (roomier : before.Roomier after) (formed : before.WellFormed) :
    before.Alike after where
  -- An arena that has grown answers as before, and goes on doing so after each call.
  idOf? name := by rcases roomier with rfl | rfl <;> simp
  contains name := by rcases roomier with rfl | rfl <;> simp [NamedArena.contains]
  get? id := by rcases roomier with rfl | rfl <;> simp
  find? name := by
    rcases roomier with rfl | rfl
    · rfl
    · have values : before.grow.get? = before.get? := funext fun id => get?_grow before id
      simp only [NamedArena.find?, idOf?_grow, values]
  size := by rcases roomier with rfl | rfl <;> simp
  toList := by rcases roomier with rfl | rfl <;> simp
  add name value := (roomier.add formed name value).1
  remove name := (roomier.remove name).1

end Roomier

end AspectWeaving.NamedArena
