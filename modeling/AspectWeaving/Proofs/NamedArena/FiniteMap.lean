import AspectWeaving.Proofs.NamedArena.Indexed

/-! An arena is a finite map from names to values, whatever calls are made of it: what it finds,
which slots it gives, what it counts and lists, and what an addition leaves behind once it is
undone. -/

namespace AspectWeaving.NamedArena

variable {α : Type} {arena : NamedArena α} {name : String} {id : Nat} {value : α}

/-- Calls that have added a name after removing it last. -/
def Live (name : String) (calls : List (Call α)) : Prop :=
  ∃ before value later, calls = before ++ .add name value :: later ∧ .remove name ∉ later

/-- A value that calls have added under a name as the first one after removing it last. -/
def FirstAdded (name : String) (value : α) (calls : List (Call α)) : Prop :=
  ∃ before later, calls = before ++ .add name value :: later ∧ .remove name ∉ later ∧
    ¬ Live name before

/-- A name under which a value has been added is live. -/
theorem FirstAdded.live {calls : List (Call α)} (first : FirstAdded name value calls) :
    Live name calls := by
  -- A name that was added first was added.
  obtain ⟨before, later, made, kept, _⟩ := first
  exact ⟨before, value, later, made, kept⟩

/-- A call among some and one more is the one more, or is among the others. -/
theorem concat_eq {calls before later : List (Call α)} {call known : Call α} :
    calls ++ [call] = before ++ known :: later ↔
      (later = [] ∧ before = calls ∧ known = call) ∨
        ∃ rest, later = rest ++ [call] ∧ calls = before ++ known :: rest := by
  -- The last call is the one that is known, or it comes behind it.
  cases later using List.reverseRecOn with
  | nil =>
    rw [List.append_singleton_inj]
    constructor
    · rintro ⟨rfl, rfl⟩
      exact .inl ⟨rfl, rfl, rfl⟩
    · rintro (⟨_, rfl, rfl⟩ | ⟨rest, none, _⟩)
      · exact ⟨rfl, rfl⟩
      · simp at none
  | append_singleton rest last =>
    rw [← List.cons_append, ← List.append_assoc, List.append_singleton_inj]
    simp only [List.append_eq_nil_iff, List.cons_ne_nil, and_false, false_and, false_or,
      List.append_singleton_inj]
    constructor
    · rintro ⟨rfl, rfl⟩
      exact ⟨rest, ⟨rfl, rfl⟩, rfl⟩
    · rintro ⟨_, ⟨rfl, rfl⟩, rfl⟩
      exact ⟨rfl, rfl⟩

/-- Without calls no name has been added. -/
theorem not_live_nil : ¬ Live name ([] : List (Call α)) := by
  -- There are no calls.
  rintro ⟨before, value, later, empty, _⟩
  simp at empty

/-- An addition makes its own name live, and removing makes it dead; every other name is what it
was. -/
theorem live_concat {calls : List (Call α)} {call : Call α} :
    Live name (calls ++ [call]) ↔
      (∃ value, call = .add name value) ∨ call ≠ .remove name ∧ Live name calls := by
  -- The last call adds the name, or it does not remove it and the name was live before.
  unfold Live
  simp only [concat_eq]
  constructor
  · rintro ⟨before, value, later, (⟨rfl, rfl, same⟩ | ⟨rest, rfl, rfl⟩), kept⟩
    · exact .inl ⟨value, same.symm⟩
    · simp only [List.mem_append, List.mem_singleton, not_or] at kept
      exact .inr ⟨Ne.symm kept.2, before, value, rest, rfl, kept.1⟩
  · rintro (⟨value, rfl⟩ | ⟨other, before, value, later, rfl, kept⟩)
    · exact ⟨calls, value, [], .inl ⟨rfl, rfl, rfl⟩, by simp⟩
    · refine ⟨before, value, later ++ [call], .inr ⟨later, rfl, rfl⟩, ?_⟩
      simpa [kept] using Ne.symm other

/-- An addition is the first one of its name if the name was dead; a call that does not remove the
name keeps the first one. -/
theorem firstAdded_concat {calls : List (Call α)} {call : Call α} :
    FirstAdded name value (calls ++ [call]) ↔
      call = .add name value ∧ ¬ Live name calls ∨
        call ≠ .remove name ∧ FirstAdded name value calls := by
  -- The last call adds a name that was not live, or it does not remove one that was added before.
  unfold FirstAdded
  simp only [concat_eq]
  constructor
  · rintro ⟨before, later, (⟨rfl, rfl, same⟩ | ⟨rest, rfl, rfl⟩), kept, first⟩
    · exact .inl ⟨same.symm, first⟩
    · simp only [List.mem_append, List.mem_singleton, not_or] at kept
      exact .inr ⟨Ne.symm kept.2, before, rest, rfl, kept.1, first⟩
  · rintro (⟨rfl, first⟩ | ⟨other, before, later, rfl, kept, first⟩)
    · exact ⟨calls, [], .inl ⟨rfl, rfl, rfl⟩, by simp, first⟩
    · refine ⟨before, later ++ [call], .inr ⟨later, rfl, rfl⟩, ?_, first⟩
      simpa [kept] using Ne.symm other

/-- A name is live exactly if values have been added under it since it was last removed. -/
theorem live_iff (name : String) (calls : List (Call α)) :
    Live name calls ↔ addedSince name calls ≠ [] := by
  -- The induction is on the calls, of which the latest decides.
  induction calls using List.reverseRecOn with
  | nil => simpa [addedSince] using not_live_nil
  | append_singleton calls call ih =>
    rw [live_concat, ih, addedSince_concat]
    cases call with
    | add other value => by_cases same : other = name <;> simp [Call.note, same]
    | remove other => by_cases same : other = name <;> simp [Call.note, same]

/-- The first value since the last removal is the first of those that have been added since. -/
theorem firstAdded_iff (name : String) (value : α) (calls : List (Call α)) :
    FirstAdded name value calls ↔ (addedSince name calls).head? = some value := by
  -- The induction is on the calls, of which the latest decides.
  induction calls using List.reverseRecOn with
  | nil => exact ⟨fun first => absurd first.live not_live_nil, by simp [addedSince]⟩
  | append_singleton calls call ih =>
    rw [firstAdded_concat, ih, live_iff, addedSince_concat]
    cases call with
    | add other added =>
      by_cases same : other = name
      · -- What has been added before goes first.
        cases addedSince name calls <;> simp [Call.note, same]
      · simp [Call.note, same]
    | remove other => by_cases same : other = name <;> simp [Call.note, same]

/-- A call that does not remove a name keeps its value in the slot that holds it. -/
theorem WellFormed.holds_perform (formed : arena.WellFormed) (holds : arena.Holds id name value)
    {call : Call α} (other : call ≠ .remove name) : (arena.perform call).Holds id name value := by
  cases call with
  | add added given =>
    cases known : arena.idOf? added with
    | some slot => simpa [NamedArena.perform, add_of_idOf? known] using holds
    | none =>
      -- A name that is held is not the new one.
      have different : name ≠ added := by
        rintro rfl
        exact idOf?_eq_none.mp known id value holds
      exact ((formed.added_add known given).holds_iff known).mpr (by rwa [if_neg different])
  | remove removed =>
    have different : name ≠ removed := fun same => other (same ▸ rfl)
    exact (formed.holds_remove removed).mpr ⟨holds, different⟩

/-- Calls that do not remove a name keep its value in the slot that holds it. -/
theorem WellFormed.holds_performAll (formed : arena.WellFormed)
    (holds : arena.Holds id name value) {calls : List (Call α)} (kept : .remove name ∉ calls) :
    (arena.performAll calls).Holds id name value := by
  -- The induction is on the calls that are still to be made.
  induction calls generalizing arena with
  | nil => exact holds
  | cons call rest ih =>
    simp only [List.mem_cons, not_or] at kept
    exact ih (formed.perform call) (formed.holds_perform holds (Ne.symm kept.1)) kept.2

/-- Calls keep a roomier arena roomier. -/
theorem Roomier.performAll {before after : NamedArena α} (roomier : before.Roomier after)
    (formed : before.WellFormed) (calls : List (Call α)) :
    (before.performAll calls).Roomier (after.performAll calls) := by
  -- The induction is on the calls that are still to be made.
  induction calls generalizing before after with
  | nil => exact roomier
  | cons call rest ih =>
    refine ih ?_ (formed.perform call)
    cases call with
    | add name value => exact (roomier.add formed name value).2
    | remove name => exact (roomier.remove name).2

/-- An arena that answers as the finite map that calls make of no values, in slots of which a name
keeps its own for as long as it is live. -/
structure Refines (arena : NamedArena α) (calls : List (Call α)) : Prop where
  /-- A name is in use exactly if it has been added since it was last removed. -/
  contains : ∀ name, arena.contains name = true ↔ Live name calls
  /-- The value under a name is the first one added since. -/
  find? : ∀ name value, arena.find? name = some value ↔ FirstAdded name value calls
  /-- Adding gives a slot and changes nothing exactly if that is the slot of the name. -/
  again : ∀ name value id, arena.add name value = (id, arena) ↔ arena.idOf? name = some id
  /-- Adding any other name fills a slot that was empty, which becomes the slot of the name. -/
  anew : ∀ name, ¬ Live name calls → ∀ value, arena.get? (arena.add name value).1 = none ∧
    (arena.add name value).2.get? (arena.add name value).1 = some value ∧
    (arena.add name value).2.idOf? name = some (arena.add name value).1
  /-- Names in use have slots of their own. -/
  apart : ∀ one other id, arena.idOf? one = some id → arena.idOf? other = some id → one = other
  /-- A slot has the value of its name until the name is removed. -/
  lasting : ∀ name id, arena.idOf? name = some id → ∀ later, .remove name ∉ later →
    (arena.performAll later).idOf? name = some id ∧
      (arena.performAll later).get? id = arena.find? name
  /-- There are as many values as live names. -/
  size : arena.size = arena.names.length ∧ arena.names.Nodup ∧
    ∀ name, name ∈ arena.names ↔ Live name calls
  /-- The values of the live names are listed once each, with increasing slots. -/
  toList : (arena.toList.map Prod.fst).Pairwise (· < ·) ∧ ∀ id value,
    (id, value) ∈ arena.toList ↔ ∃ name, arena.idOf? name = some id ∧ arena.find? name = some value
  /-- Removing what has been added gives it back, and no later call can tell. -/
  undone : ∀ name, ¬ Live name calls → ∀ value,
    ((arena.add name value).2.remove name).1 = some value ∧
      ∀ later, (arena.performAll later).Alike
        (((arena.add name value).2.remove name).2.performAll later)

/-- What has been added is held where it was put. -/
theorem Added.holds_self {before after : NamedArena α} (added : Added before after id name value) :
    after.Holds id name value := added.holds.mpr (by simp)

/-- No two names share a slot. -/
theorem name_eq_of_idOf? {other : String} (here : arena.idOf? name = some id)
    (there : arena.idOf? other = some id) : name = other := by
  -- A slot holds one name.
  obtain ⟨_, holds⟩ := holds_of_idOf? here
  obtain ⟨_, again⟩ := holds_of_idOf? there
  exact (holds.eq again).1

namespace WellFormed

variable (formed : arena.WellFormed)
include formed

/-- A slot holds a value under a name exactly if the name has that slot and that value. -/
theorem holds_iff :
    arena.Holds id name value ↔ arena.idOf? name = some id ∧ arena.find? name = some value := by
  -- A slot holds what is found for its name.
  constructor
  · exact fun holds =>
      ⟨formed.idOf?_eq_some.mpr ⟨value, holds⟩, formed.find?_eq_some.mpr ⟨id, holds⟩⟩
  · rintro ⟨here, found⟩
    obtain ⟨held, holds⟩ := holds_of_idOf? here
    have same : some held = some value := (formed.find?_eq_some.mpr ⟨id, holds⟩).symm.trans found
    rwa [Option.some.inj same] at holds

/-- Adding changes nothing exactly if the name has the slot that is answered. -/
theorem add_eq_iff : arena.add name value = (id, arena) ↔ arena.idOf? name = some id := by
  refine ⟨fun same => ?_, fun known => add_of_idOf? known value⟩
  cases known : arena.idOf? name with
  | some slot =>
    rw [add_of_idOf? known] at same
    rw [(Prod.mk.inj same).1]
  | none =>
    -- An arena with a value more is another one.
    have size := (formed.added_add known value).size
    rw [(Prod.ext_iff.mp same).2] at size
    exact absurd size (Nat.succ_ne_self _).symm

/-- A name keeps its slot, and the slot its value, through calls that do not remove the name. -/
theorem idOf?_performAll_of_kept (here : arena.idOf? name = some id) {later : List (Call α)}
    (kept : .remove name ∉ later) : (arena.performAll later).idOf? name = some id ∧
      (arena.performAll later).get? id = arena.find? name := by
  -- A slot holds what it holds until the name is removed.
  obtain ⟨value, holds⟩ := holds_of_idOf? here
  have still := formed.holds_performAll holds kept
  rw [(formed.holds_iff.mp holds).2]
  exact ⟨((formed.performAll later).holds_iff.mp still).1, still.get?⟩

/-- Taking out what has just been added under a new name gives its value back, and no later call
can tell. -/
theorem remove_add (fresh : arena.idOf? name = none) (value : α) :
    ((arena.add name value).2.remove name).1 = some value ∧
      ∀ later, (arena.performAll later).Alike
        (((arena.add name value).2.remove name).2.performAll later) := by
  -- The arena may only have grown meanwhile, which no later call can tell.
  have added := formed.added_add fresh value
  have known := added.formed.idOf?_eq_some.mpr ⟨value, added.holds_self⟩
  have roomier := (formed.regrown_remove_add fresh value).roomier
  constructor
  · simp only [NamedArena.remove, known, added.holds_self.get?]
  · exact fun later => (roomier.performAll formed later).alike (formed.performAll later)

end WellFormed

/-- A name has no slot exactly if it is not live. -/
theorem idOf?_performAll (calls : List (Call α)) (name : String) :
    ((empty : NamedArena α).performAll calls).idOf? name = none ↔ ¬ Live name calls := by
  -- What is found is what was added and not removed since.
  rw [(wellFormed_empty.performAll calls).idOf?_eq_none_iff, find?_performAll, live_iff,
    List.head?_eq_none_iff, not_not]

/-- Whatever calls are made of no values, the arena is the finite map that they make. -/
theorem refines_performAll (calls : List (Call α)) :
    ((empty : NamedArena α).performAll calls).Refines calls := by
  have formed := (wellFormed_empty (α := α)).performAll calls
  have dead := idOf?_performAll (α := α) calls
  -- A name is live exactly if a slot holds it.
  have live : ∀ name, Live name calls ↔
      ∃ id value, ((empty : NamedArena α).performAll calls).Holds id name value := by
    intro name
    rw [← not_iff_not, ← dead, idOf?_eq_none]
    simp only [not_exists]
  refine ⟨fun name => ?_, fun name value => ?_, fun _ _ _ => formed.add_eq_iff, ?_,
    fun _ _ _ => name_eq_of_idOf?, ?_, ⟨size_eq_length_names _, formed.nodup_names, fun name => ?_⟩,
    ⟨pairwise_toList _, fun id value => ?_⟩, ?_⟩
  · rw [NamedArena.contains, ← not_iff_not, ← dead, Option.not_isSome_iff_eq_none]
  · rw [find?_performAll, firstAdded_iff]
  · intro name absent value
    have added := formed.added_add ((dead name).mpr absent) value
    have known := added.formed.holds_iff.mp added.holds_self
    exact ⟨added.vacant, added.holds_self.get?, known.1⟩
  · exact fun name id here later kept => formed.idOf?_performAll_of_kept here kept
  · rw [mem_names, live]
  · simp only [mem_toList, formed.holds_iff]
  · exact fun name absent value => formed.remove_add ((dead name).mpr absent) value

/-- Whatever calls are made of no values, the arena is the finite map that they make, and two tables
that are kept apart answer as it does, with no name that points at an empty slot. -/
theorem finiteMap_performAll (calls : List (Call α)) :
    ((empty : NamedArena α).performAll calls).Refines calls ∧
      IndexedArena.Agrees ((empty : NamedArena α).performAll calls)
        (IndexedArena.empty.performAll calls) := by
  -- Both arenas are put through the same calls.
  have splits := (IndexedArena.Splits.empty (α := α)).performAll wellFormed_empty calls
  exact ⟨refines_performAll calls, splits.agrees (wellFormed_empty.performAll calls)⟩

end AspectWeaving.NamedArena
