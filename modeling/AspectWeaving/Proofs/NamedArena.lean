import AspectWeaving.NamedArena
import Mathlib.Data.List.Basic

/-! Well-formed arenas: every slot is free or holds one name, and no name is held twice. -/

namespace AspectWeaving.NamedArena

variable {α : Type}

/-- A slot holds a value under a name. -/
def Holds (arena : NamedArena α) (id : Nat) (name : String) (value : α) : Prop :=
  arena.slots[id]? = some (some (name, value))

/-- The free slots are the empty ones, each listed once, and no two slots hold one name. -/
structure WellFormed (arena : NamedArena α) : Prop where
  roomy : 0 < arena.slots.length
  freeNodup : arena.free.Nodup
  memFree : ∀ id, id ∈ arena.free ↔ arena.slots[id]? = some none
  unique : ∀ {i j name value other}, arena.Holds i name value → arena.Holds j name other → i = j

/-- A slot holds at most one entry. -/
theorem Holds.eq {arena : NamedArena α} {id : Nat} {name other : String} {value held : α}
    (holds : arena.Holds id name value) (again : arena.Holds id other held) :
    name = other ∧ value = held := by
  unfold Holds at holds again
  -- One slot has one content.
  rw [holds] at again
  simpa using again

/-- A slot has a value exactly if it holds one under some name. -/
theorem get?_eq_some {arena : NamedArena α} {id : Nat} {value : α} :
    arena.get? id = some value ↔ ∃ name, arena.Holds id name value := by
  -- Joining drops the difference between a free slot and one beyond the arena.
  unfold get? Holds
  cases found : arena.slots[id]? with
  | none => simp
  | some slot => cases slot <;> simp [Prod.ext_iff]

/-- A slot that holds an entry gives its value. -/
theorem Holds.get? {arena : NamedArena α} {id : Nat} {name : String} {value : α}
    (holds : arena.Holds id name value) : arena.get? id = some value :=
  get?_eq_some.mpr ⟨name, holds⟩

/-- A free slot has no value. -/
theorem WellFormed.get?_of_mem_free {arena : NamedArena α} (formed : arena.WellFormed) {id : Nat}
    (free : id ∈ arena.free) : arena.get? id = none := by
  -- The free slots are the empty ones.
  simp [NamedArena.get?, (formed.memFree id).mp free]

/-- A name is found nowhere exactly if no slot holds it. -/
theorem idOf?_eq_none {arena : NamedArena α} {name : String} :
    arena.idOf? name = none ↔ ∀ id value, ¬ arena.Holds id name value := by
  unfold idOf? Holds
  rw [List.findIdx?_eq_none_iff]
  constructor
  · intro absent id value held
    have tested := absent _ (List.mem_of_getElem? held)
    simp at tested
  · intro absent slot member
    obtain ⟨id, held⟩ := List.mem_iff_getElem?.mp member
    -- A free slot is passed over, and any other holds a different name.
    rcases slot with _ | ⟨other, value⟩
    · rfl
    · have different : other ≠ name := fun same => absent id value (same ▸ held)
      simpa using different

/-- A name that is found is held by the slot that it is found in. -/
theorem holds_of_idOf? {arena : NamedArena α} {name : String} {id : Nat}
    (found : arena.idOf? name = some id) : ∃ value, arena.Holds id name value := by
  unfold idOf? at found
  obtain ⟨within, tested, _⟩ := List.findIdx?_eq_some_iff_getElem.mp found
  unfold Holds
  rw [List.getElem?_eq_getElem within]
  -- A free slot does not pass the test.
  cases slot : arena.slots[id] with
  | none => simp [slot] at tested
  | some entry =>
    rcases entry with ⟨other, value⟩
    have same : other = name := by simpa [slot] using tested
    exact ⟨value, by rw [same]⟩

/-- A well-formed arena finds a name in the one slot that holds it. -/
theorem WellFormed.idOf?_eq_some {arena : NamedArena α} (formed : arena.WellFormed)
    {name : String} {id : Nat} :
    arena.idOf? name = some id ↔ ∃ value, arena.Holds id name value := by
  constructor
  · exact holds_of_idOf?
  · -- Whichever slot is found first, it is the one that holds the name.
    rintro ⟨value, holds⟩
    cases found : arena.idOf? name with
    | none => exact absurd holds (idOf?_eq_none.mp found id value)
    | some other =>
      obtain ⟨held, elsewhere⟩ := holds_of_idOf? found
      rw [formed.unique elsewhere holds]

/-- The first four slots of an arena without values are free, and there are no others. -/
theorem slots_empty (id : Nat) :
    (empty : NamedArena α).slots[id]? = if id < 4 then some none else none :=
  -- An arena starts with four empty slots.
  List.getElem?_replicate

/-- The arena without values holds none. -/
theorem not_holds_empty {id : Nat} {name : String} {value : α} :
    ¬ (empty : NamedArena α).Holds id name value := by
  -- All slots are empty.
  unfold Holds
  rw [slots_empty]
  split <;> simp

/-- The arena without values is well-formed. -/
theorem wellFormed_empty : (empty : NamedArena α).WellFormed where
  -- All slots are empty and free.
  roomy := by simp [empty]
  freeNodup := List.nodup_range
  memFree id := by
    rw [slots_empty]
    simp [empty]
  unique held _ := absurd held not_holds_empty

/-- Growing keeps the entries where they are. -/
@[simp]
theorem holds_grow {arena : NamedArena α} {id : Nat} {name : String} {value : α} :
    arena.grow.Holds id name value ↔ arena.Holds id name value := by
  unfold Holds grow
  -- Old slots are where they were, and new ones hold nothing.
  rcases Nat.lt_or_ge id arena.slots.length with below | beyond
  · rw [List.getElem?_append_left below]
  · rw [List.getElem?_append_right beyond, List.getElem?_eq_none beyond]
    simp [List.getElem?_replicate]

/-- Growing keeps the number of values. -/
@[simp]
theorem size_grow (arena : NamedArena α) : arena.grow.size = arena.size := by
  -- The slots that are added are empty.
  simp [size, grow, List.countP_append, List.countP_replicate]

/-- Growing a well-formed arena keeps it so. -/
theorem WellFormed.grow {arena : NamedArena α} (formed : arena.WellFormed) :
    arena.grow.WellFormed where
  roomy := by
    have := formed.roomy
    simp only [NamedArena.grow, List.length_append]
    omega
  freeNodup := by
    refine List.nodup_append.mpr ⟨formed.freeNodup, List.nodup_range', ?_⟩
    -- The old free slots lie within the old arena and the new ones beyond it.
    intro old free fresh added same
    have within := (List.getElem?_eq_some_iff.mp ((formed.memFree old).mp free)).1
    have beyond := (List.mem_range'_1.mp added).1
    omega
  memFree id := by
    have old := formed.memFree id
    simp only [NamedArena.grow, List.mem_append, List.mem_range'_1]
    -- An old slot is free if it was, and every new one is.
    rcases Nat.lt_or_ge id arena.slots.length with below | beyond
    · rw [List.getElem?_append_left below, ← old]
      exact or_iff_left (by omega)
    · have outside : id ∉ arena.free := by
        rw [old, List.getElem?_eq_none beyond]
        simp
      rw [List.getElem?_append_right beyond, List.getElem?_replicate]
      simp only [outside, false_or]
      split <;> simp <;> omega
  unique held again := formed.unique (holds_grow.mp held) (holds_grow.mp again)

/-- A well-formed arena has a free slot once it has been grown. -/
theorem WellFormed.free_grow {arena : NamedArena α} (formed : arena.WellFormed) :
    arena.grow.free ≠ [] := by
  -- There are always slots, and their number is doubled.
  have := formed.roomy
  simp only [NamedArena.grow, ne_eq, List.append_eq_nil_iff, List.range'_eq_nil_iff]
  omega

/-- Putting a value into a free slot fills that slot and leaves the others. -/
theorem holds_place {arena : NamedArena α} (formed : arena.WellFormed) {slot : Nat}
    {rest : List Nat} (next : arena.free = slot :: rest) (name : String) (value : α)
    {id : Nat} {other : String} {held : α} :
    (arena.place name value).2.Holds id other held ↔
      if id = slot then other = name ∧ held = value else arena.Holds id other held := by
  have free : arena.slots[slot]? = some none := (formed.memFree slot).mp (by simp [next])
  have within : slot < arena.slots.length := (List.getElem?_eq_some_iff.mp free).1
  unfold Holds place
  rw [next]
  -- The slot that is filled has just been free.
  by_cases same : id = slot
  · subst id
    simp [List.getElem?_set_self within, eq_comm]
  · simp [List.getElem?_set_ne (Ne.symm same), same]

/-- Putting a value under a new name into a free slot keeps an arena well-formed. -/
theorem WellFormed.place {arena : NamedArena α} (formed : arena.WellFormed) {slot : Nat}
    {rest : List Nat} (next : arena.free = slot :: rest) {name : String}
    (fresh : arena.idOf? name = none) (value : α) :
    (arena.place name value).2.WellFormed := by
  -- The slot that is filled leaves the list of free ones.
  have distinct : slot ∉ rest ∧ rest.Nodup := List.nodup_cons.mp (next ▸ formed.freeNodup)
  refine ⟨?_, ?_, ?_, ?_⟩
  · simpa [NamedArena.place, next] using formed.roomy
  · simpa [NamedArena.place, next] using distinct.2
  · intro id
    have old := formed.memFree id
    rw [next] at old
    simp only [NamedArena.place, next, List.getElem?_set]
    by_cases same : slot = id
    · subst id
      have within : slot < arena.slots.length :=
        (List.getElem?_eq_some_iff.mp (old.mp (by simp))).1
      simp [distinct.1, within]
    · simpa [same, Ne.symm same] using old
  · intro i j shared held again left right
    rw [holds_place formed next] at left right
    -- The new name is held nowhere else.
    have absent := idOf?_eq_none.mp fresh
    split at left <;> split at right
    · omega
    · exact absurd (left.1 ▸ right) (absent _ _)
    · exact absurd (right.1 ▸ left) (absent _ _)
    · exact formed.unique left right

/-- What adding a value under a new name does: one free slot is filled, all else is as before. -/
structure Added (before after : NamedArena α) (id : Nat) (name : String) (value : α) : Prop where
  formed : after.WellFormed
  vacant : before.get? id = none
  holds : ∀ {slot other held}, after.Holds slot other held ↔
    if slot = id then other = name ∧ held = value else before.Holds slot other held
  size : after.size = before.size + 1

/-- Filling a free slot adds a value. -/
theorem WellFormed.added_place {arena : NamedArena α} (formed : arena.WellFormed)
    (room : arena.free ≠ []) {name : String} (fresh : arena.idOf? name = none) (value : α) :
    Added arena (arena.place name value).2 (arena.place name value).1 name value := by
  obtain ⟨slot, rest, next⟩ := List.exists_cons_of_ne_nil room
  have taken : (arena.place name value).1 = slot := by simp [NamedArena.place, next]
  have free : slot ∈ arena.free := by simp [next]
  rw [taken]
  refine ⟨formed.place next fresh value, formed.get?_of_mem_free free,
    holds_place formed next name value, ?_⟩
  -- One slot that was empty is counted now.
  obtain ⟨within, vacant⟩ := List.getElem?_eq_some_iff.mp ((formed.memFree slot).mp free)
  simp [NamedArena.place, next, NamedArena.size, List.countP_set within, vacant]

/-- A name that is not in use is added in a slot that was free. -/
theorem WellFormed.added_add {arena : NamedArena α} (formed : arena.WellFormed) {name : String}
    (fresh : arena.idOf? name = none) (value : α) :
    Added arena (arena.add name value).2 (arena.add name value).1 name value := by
  unfold add
  rw [fresh]
  by_cases full : arena.free.isEmpty
  · -- A full arena is grown first, which changes neither its entries nor their number.
    have absent : arena.grow.idOf? name = none := by
      rw [idOf?_eq_none] at fresh ⊢
      exact fun id held => mt holds_grow.mp (fresh id held)
    have added := formed.grow.added_place formed.free_grow absent value
    simp only [full, if_true]
    refine ⟨added.formed, ?_, ?_, by simpa using added.size⟩
    · -- What the grown arena holds nowhere was not in the old one either.
      refine Option.eq_none_iff_forall_ne_some.mpr fun held found => ?_
      obtain ⟨other, holds⟩ := get?_eq_some.mp found
      simpa [added.vacant] using (holds_grow.mpr holds).get?
    · intro slot other held
      simpa using added.holds
  · simp only [full]
    exact formed.added_place (by simpa using full) fresh value

/-- A name in use is not added again. -/
theorem add_of_idOf? {arena : NamedArena α} {name : String} {id : Nat}
    (found : arena.idOf? name = some id) (value : α) : arena.add name value = (id, arena) := by
  -- A name that is taken is not added again.
  simp [add, found]

/-- Removing a name empties the slot that holds it and leaves the others. -/
theorem WellFormed.holds_remove {arena : NamedArena α} (formed : arena.WellFormed)
    (name : String) {id : Nat} {other : String} {held : α} :
    (arena.remove name).2.Holds id other held ↔ arena.Holds id other held ∧ other ≠ name := by
  unfold remove
  -- A name that is not there is held by no slot.
  cases found : arena.idOf? name with
  | none =>
    have absent := idOf?_eq_none.mp found
    exact ⟨fun holds => ⟨holds, fun same => absent id held (same ▸ holds)⟩, And.left⟩
  | some slot =>
    obtain ⟨value, taken⟩ := formed.idOf?_eq_some.mp found
    have within : slot < arena.slots.length := (List.getElem?_eq_some_iff.mp taken).1
    unfold Holds at taken ⊢
    -- No other slot held the name.
    by_cases same : id = slot
    · subst id
      simp only [List.getElem?_set_self within, taken]
      simp
      tauto
    · simp only [List.getElem?_set_ne (Ne.symm same)]
      refine ⟨fun holds => ⟨holds, fun named => same ?_⟩, And.left⟩
      exact formed.unique (named ▸ holds) taken

/-- Removing keeps an arena well-formed. -/
theorem WellFormed.remove {arena : NamedArena α} (formed : arena.WellFormed) (name : String) :
    (arena.remove name).2.WellFormed := by
  -- Entries that are left were there before, and so they are unique.
  have unique : ∀ {i j shared held again},
      (arena.remove name).2.Holds i shared held → (arena.remove name).2.Holds j shared again →
        i = j := fun left right =>
    formed.unique ((formed.holds_remove name).mp left).1 ((formed.holds_remove name).mp right).1
  cases found : arena.idOf? name with
  | none => simpa [NamedArena.remove, found] using formed
  | some slot =>
    obtain ⟨value, taken⟩ := formed.idOf?_eq_some.mp found
    have within : slot < arena.slots.length := (List.getElem?_eq_some_iff.mp taken).1
    refine ⟨?_, ?_, ?_, unique⟩
    · simpa [NamedArena.remove, found] using formed.roomy
    · -- The slot held an entry, so that it was not listed as free.
      have busy : slot ∉ arena.free := by
        rw [formed.memFree, taken]
        simp
      simpa [NamedArena.remove, found] using ⟨busy, formed.freeNodup⟩
    · intro id
      have old := formed.memFree id
      simp only [NamedArena.remove, found, List.mem_cons, List.getElem?_set]
      by_cases same : slot = id
      · subst id
        simp [within]
      · simpa [same, Ne.symm same] using old

end AspectWeaving.NamedArena
