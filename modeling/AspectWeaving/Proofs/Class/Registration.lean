import AspectWeaving.Class.Table
import AspectWeaving.Proofs.Dictionary
import AspectWeaving.Proofs.NamedArena
import AspectWeaving.Proofs.Text.Separators

/-! Registering creates a new class exactly if no live class bears the reference that its name is
given; among names without a number sign no reference is ever given twice. -/

namespace AspectWeaving.ClassTable

variable {β : Type}

/-- The reference that the next class of a name is given. -/
def nextReference (table : ClassTable β) (name : String) : String :=
  referenceOf (baseName name) (table.homonymCount (baseName name))

/-- The class that registering a definition keeps. -/
def nextDescriptor (table : ClassTable β) (definition : ClassDefinition β) : ClassDescriptor β :=
  { definition with reference := table.nextReference definition.name }

/-- The arena is well-formed and keeps every class under its reference. -/
structure WellFormed (table : ClassTable β) : Prop where
  arena : table.arena.WellFormed
  named : ∀ {id name descriptor},
    table.arena.Holds id name descriptor → descriptor.reference = name

/-- What any sequence of registrations and removals makes of the table without classes. -/
inductive Reached (allowed : String → Prop) : ClassTable β → Prop where
  | empty : Reached allowed empty
  | register {table after : ClassTable β} {definition : ClassDefinition β} {id : ClassId}
      (reached : Reached allowed table) (named : allowed definition.name)
      (registered : table.register definition = .ok (id, after)) : Reached allowed after
  | discard {table : ClassTable β} (id : ClassId) (reached : Reached allowed table) :
      Reached allowed (table.discard id).2

/-- What a registration adds: one class, as it was defined, under a reference of its own. -/
structure Creates (before after : ClassTable β) (id : ClassId)
    (definition : ClassDefinition β) : Prop where
  fresh : before.get? id = none
  kept : ∃ descriptor, after.get? id = some descriptor ∧
    descriptor.toClassDefinition = definition ∧
    after.getByReference? descriptor.reference = some (id, descriptor) ∧
    ∀ other held, other ≠ id → after.get? other = some held →
      held.reference ≠ descriptor.reference
  size : after.size = before.size + 1
  others : ∀ other, other ≠ id → after.get? other = before.get? other

/-- A registration that succeeds has found the parent and adds the class to the arena. -/
theorem register_eq_ok {table after : ClassTable β} {definition : ClassDefinition β}
    {id : ClassId} :
    table.register definition = .ok (id, after) ↔
      (∀ parent, definition.parent = some parent → ∃ held, table.get? parent = some held) ∧
        id.number = (table.arena.add (table.nextReference definition.name)
          (table.nextDescriptor definition)).1 ∧
        after = ⟨(table.arena.add (table.nextReference definition.name)
            (table.nextDescriptor definition)).2,
          table.homonyms.insert (baseName definition.name)
            (table.homonymCount (baseName definition.name) + 1)⟩ := by
  unfold register nextDescriptor nextReference
  have numbered (number : Nat) : (⟨number⟩ : ClassId) = id ↔ id.number = number :=
    ⟨fun same => same ▸ rfl, fun same => congrArg ClassId.mk same.symm⟩
  -- Only a parent that is not live makes a registration fail.
  rcases parentage : definition.parent with _ | parent
  · simp [Pure.pure, Except.pure, numbered, eq_comm (a := after)]
  · cases found : table.get? parent with
    | none => simp [get, found, Bind.bind, Except.bind]
    | some held =>
      simp [get, found, Bind.bind, Except.bind, Pure.pure, Except.pure, numbered,
        eq_comm (a := after)]

/-- Taking a class out removes its reference from the arena. -/
theorem discard_of_get? {table : ClassTable β} {id : ClassId} {descriptor : ClassDescriptor β}
    (found : table.get? id = some descriptor) :
    (table.discard id).2.arena = (table.arena.remove descriptor.reference).2 := by
  simp [discard, found]

/-- Taking out a class that is not there changes nothing. -/
theorem discard_of_get?_eq_none {table : ClassTable β} {id : ClassId}
    (absent : table.get? id = none) : (table.discard id).2 = table := by
  simp [discard, absent]

/-- A class is live exactly if its slot holds it under its reference. -/
theorem WellFormed.get?_eq_some {table : ClassTable β} (formed : table.WellFormed) {id : ClassId}
    {descriptor : ClassDescriptor β} :
    table.get? id = some descriptor ↔
      table.arena.Holds id.number descriptor.reference descriptor := by
  -- A class is found in its slot, which bears its reference as a name.
  unfold get?
  rw [NamedArena.get?_eq_some]
  refine ⟨fun ⟨name, holds⟩ => ?_, fun holds => ⟨_, holds⟩⟩
  rw [formed.named holds]
  exact holds

/-- Live classes with one reference are one class. -/
theorem WellFormed.reference_inj {table : ClassTable β} (formed : table.WellFormed)
    {id other : ClassId} {descriptor held : ClassDescriptor β}
    (found : table.get? id = some descriptor) (again : table.get? other = some held)
    (same : descriptor.reference = held.reference) : id = other := by
  rw [formed.get?_eq_some] at found again
  rw [same] at found
  cases id
  cases other
  -- The arena holds no name twice.
  exact congrArg ClassId.mk (formed.arena.unique found again)

/-- A reference finds the live class that bears it. -/
theorem WellFormed.getByReference?_eq_some {table : ClassTable β} (formed : table.WellFormed)
    {reference : String} {id : ClassId} {descriptor : ClassDescriptor β} :
    table.getByReference? reference = some (id, descriptor) ↔
      table.get? id = some descriptor ∧ descriptor.reference = reference := by
  rw [formed.get?_eq_some]
  unfold getByReference?
  -- The arena is asked for the slot that holds the reference as its name.
  cases found : table.arena.idOf? reference with
  | none =>
    have absent := NamedArena.idOf?_eq_none.mp found
    refine ⟨fun none => by simp at none, fun ⟨holds, named⟩ => ?_⟩
    exact absurd (named ▸ holds) (absent _ _)
  | some number =>
    obtain ⟨value, holds⟩ := formed.arena.idOf?_eq_some.mp found
    simp only [bind, Option.bind_some, holds.get?, Option.some.injEq, Prod.mk.injEq, pure]
    constructor
    · rintro ⟨rfl, rfl⟩
      rw [formed.named holds]
      exact ⟨holds, rfl⟩
    · rintro ⟨again, rfl⟩
      obtain rfl := formed.arena.unique holds again
      exact ⟨rfl, (holds.eq again).2⟩

/-- A reference that no live class bears is not in use in the arena. -/
theorem WellFormed.idOf?_eq_none {table : ClassTable β} (formed : table.WellFormed)
    {reference : String} :
    table.arena.idOf? reference = none ↔ table.getByReference? reference = none := by
  -- A reference that has a number has a live class, found under it.
  constructor
  · intro absent
    simp [getByReference?, absent]
  · intro absent
    cases found : table.arena.idOf? reference with
    | none => rfl
    | some number =>
      obtain ⟨descriptor, holds⟩ := formed.arena.idOf?_eq_some.mp found
      have live : table.get? ⟨number⟩ = some descriptor := holds.get?
      simp [formed.getByReference?_eq_some.mpr ⟨live, formed.named holds⟩] at absent

/-- The table without classes is well-formed. -/
theorem wellFormed_empty : (empty : ClassTable β).WellFormed :=
  -- There are no slots.
  ⟨NamedArena.wellFormed_empty, fun holds => absurd holds NamedArena.not_holds_empty⟩

/-- Registering keeps a table well-formed. -/
theorem WellFormed.register {table after : ClassTable β} (formed : table.WellFormed)
    {definition : ClassDefinition β} {id : ClassId}
    (registered : table.register definition = .ok (id, after)) : after.WellFormed := by
  obtain ⟨_, _, rfl⟩ := register_eq_ok.mp registered
  -- A reference in use changes nothing in the arena; a free one fills a slot.
  cases taken : table.arena.idOf? (table.nextReference definition.name) with
  | some number =>
    rw [NamedArena.add_of_idOf? taken]
    exact ⟨formed.arena, formed.named⟩
  | none =>
    have added := formed.arena.added_add taken (table.nextDescriptor definition)
    refine ⟨added.formed, fun holds => ?_⟩
    have placed := added.holds.mp holds
    split at placed
    · rw [placed.1, placed.2, nextDescriptor]
    · exact formed.named placed

/-- Taking a class out keeps a table well-formed. -/
theorem WellFormed.discard {table : ClassTable β} (formed : table.WellFormed) (id : ClassId) :
    (table.discard id).2.WellFormed := by
  -- Discarding a class that is not live does nothing.
  cases found : table.get? id with
  | none => rwa [discard_of_get?_eq_none found]
  | some descriptor =>
    refine ⟨?_, fun {number name held} holds => ?_⟩
    · rw [discard_of_get? found]
      exact formed.arena.remove descriptor.reference
    · rw [discard_of_get? found] at holds
      exact formed.named ((formed.arena.holds_remove descriptor.reference).mp holds).1

/-- Every table that can be reached is well-formed. -/
theorem Reached.wellFormed {allowed : String → Prop} {table : ClassTable β}
    (reached : Reached allowed table) : table.WellFormed := by
  -- The induction is on the sequence of registrations and removals.
  induction reached with
  | empty => exact wellFormed_empty
  | register _ _ registered formed => exact formed.register registered
  | discard id _ formed => exact formed.discard id

/-- Under a reference that no live class bears, the arena takes the class in. -/
theorem WellFormed.added_register {table after : ClassTable β} (formed : table.WellFormed)
    {definition : ClassDefinition β} {id : ClassId}
    (registered : table.register definition = .ok (id, after))
    (free : table.getByReference? (table.nextReference definition.name) = none) :
    NamedArena.Added table.arena after.arena id.number (table.nextReference definition.name)
      (table.nextDescriptor definition) := by
  -- Registering adds the class to the arena under a name that is free.
  obtain ⟨_, numbered, rfl⟩ := register_eq_ok.mp registered
  have added := formed.arena.added_add (formed.idOf?_eq_none.mpr free)
    (table.nextDescriptor definition)
  rwa [← numbered] at added

/-- Under a reference that no live class bears, the class is live as soon as it is registered. -/
theorem WellFormed.get?_register {table after : ClassTable β} (formed : table.WellFormed)
    {definition : ClassDefinition β} {id : ClassId}
    (registered : table.register definition = .ok (id, after))
    (free : table.getByReference? (table.nextReference definition.name) = none) :
    after.get? id = some (table.nextDescriptor definition) := by
  -- The slot that was filled holds the definition with its new reference.
  have placed := (formed.added_register registered free).holds.mpr
    (by rw [if_pos rfl]; exact ⟨rfl, rfl⟩)
  exact placed.get?

/-- Under a reference that no live class bears, registering creates a class. -/
theorem WellFormed.creates {table after : ClassTable β} (formed : table.WellFormed)
    {definition : ClassDefinition β} {id : ClassId}
    (registered : table.register definition = .ok (id, after))
    (free : table.getByReference? (table.nextReference definition.name) = none) :
    Creates table after id definition := by
  have reformed := formed.register registered
  have added := formed.added_register registered free
  have live := formed.get?_register registered free
  refine ⟨added.vacant, ⟨_, live, rfl, ?_, ?_⟩, added.size, ?_⟩
  · exact reformed.getByReference?_eq_some.mpr ⟨live, rfl⟩
  · intro other held different found same
    exact different (reformed.reference_inj found live same)
  · intro other different
    -- Only the slot of the new class has changed.
    have elsewhere : other.number ≠ id.number :=
      fun same => different (congrArg ClassId.mk same)
    refine Option.ext fun held => ?_
    simp only [get?, NamedArena.get?_eq_some, added.holds, if_neg elsewhere]

/-- Under a reference that a live class bears, registering gives that class back. -/
theorem WellFormed.register_merges {table after : ClassTable β} (formed : table.WellFormed)
    {definition : ClassDefinition β} {id : ClassId}
    (registered : table.register definition = .ok (id, after)) {live : ClassId}
    {held : ClassDescriptor β}
    (taken : table.getByReference? (table.nextReference definition.name) = some (live, held)) :
    id = live ∧ after.arena = table.arena := by
  obtain ⟨_, numbered, rfl⟩ := register_eq_ok.mp registered
  obtain ⟨found, named⟩ := formed.getByReference?_eq_some.mp taken
  have holds := formed.get?_eq_some.mp found
  rw [named] at holds
  -- The arena finds the reference in use and gives its slot back.
  have known := formed.arena.idOf?_eq_some.mpr ⟨held, holds⟩
  rw [NamedArena.add_of_idOf? known] at numbered ⊢
  exact ⟨congrArg ClassId.mk numbered, rfl⟩

/-- A live class stays as it is when another one is registered, merged or not. -/
theorem WellFormed.get?_register_of_get? {table after : ClassTable β} (formed : table.WellFormed)
    {definition : ClassDefinition β} {id : ClassId}
    (registered : table.register definition = .ok (id, after)) {other : ClassId}
    {descriptor : ClassDescriptor β} (live : table.get? other = some descriptor) :
    after.get? other = some descriptor := by
  cases taken : table.getByReference? (table.nextReference definition.name) with
  | none =>
    have created := formed.creates registered taken
    -- The slot of the new class was empty.
    have different : other ≠ id := by
      rintro rfl
      rw [created.fresh] at live
      contradiction
    rw [created.others other different, live]
  | some bearer =>
    have same := (formed.register_merges registered taken).2
    rwa [get?, same]

/-- A name without the sign that sets the numbers of references off. -/
def Unnumbered (name : String) : Prop := '#' ∉ name.toList

instance (name : String) : Decidable (Unnumbered name) :=
  inferInstanceAs (Decidable ('#' ∉ name.toList))

/-- Names are counted under texts without a number sign if they have none themselves. -/
theorem unnumbered_baseName {name : String} (clean : Unnumbered name) :
    Unnumbered (baseName name) := by
  unfold baseName
  -- A class without a name is counted under a fixed one.
  split
  · simp [Unnumbered]
  · exact clean

/-- The base and the count can be read off a reference. -/
theorem referenceOf_inj {base other : String} (clean : Unnumbered base)
    (clean' : Unnumbered other) {count count' : Nat} :
    referenceOf base count = referenceOf other count' ↔ base = other ∧ count = count' := by
  -- A reference without a number sign has count zero, and otherwise the sign ends the base.
  have cut : ∀ (text : String) (number : Nat), (text ++ "#" ++ toString number : String).toList =
      text.toList ++ '#' :: (toString number : String).toList := by simp
  refine ⟨fun same => ?_, fun ⟨bases, counts⟩ => by rw [bases, counts]⟩
  have letters := congrArg String.toList same
  unfold referenceOf at letters
  split at letters <;> split at letters
  · exact ⟨String.toList_inj.mp letters, by omega⟩
  · rw [cut] at letters
    exact absurd letters.symm (Text.append_separator_ne clean)
  · rw [cut] at letters
    exact absurd letters (Text.append_separator_ne clean')
  · rw [cut, cut, Text.append_separator_inj clean clean'] at letters
    exact ⟨String.toList_inj.mp letters.1,
      Text.toString_nat_inj.mp (String.toList_inj.mp letters.2)⟩

/-- Each live class has a reference that its name has been given out already. -/
structure Counted (table : ClassTable β) : Prop where
  unnumbered : ∀ {id descriptor}, table.get? id = some descriptor → Unnumbered descriptor.name
  counted : ∀ {id descriptor}, table.get? id = some descriptor →
    ∃ count < table.homonymCount (baseName descriptor.name),
      descriptor.reference = referenceOf (baseName descriptor.name) count

/-- Among counted classes the next reference of a name without a number sign is free. -/
theorem Counted.nextReference_free {table : ClassTable β} (formed : table.WellFormed)
    (counted : table.Counted) {name : String} (clean : Unnumbered name) :
    table.getByReference? (table.nextReference name) = none := by
  refine Option.eq_none_iff_forall_ne_some.mpr fun ⟨id, descriptor⟩ found => ?_
  obtain ⟨live, borne⟩ := formed.getByReference?_eq_some.mp found
  obtain ⟨count, below, given⟩ := counted.counted live
  -- The bearer's count lies below the next one of its name.
  have same := (referenceOf_inj (unnumbered_baseName (counted.unnumbered live))
    (unnumbered_baseName clean)).mp (given.symm.trans borne)
  rw [same.1] at below
  omega

/-- Registering raises the count of one name and lowers none. -/
theorem homonymCount_register {table after : ClassTable β} {definition : ClassDefinition β}
    {id : ClassId} (registered : table.register definition = .ok (id, after)) (base : String) :
    after.homonymCount base = if base = baseName definition.name then table.homonymCount base + 1
      else table.homonymCount base := by
  obtain ⟨_, _, rfl⟩ := register_eq_ok.mp registered
  unfold homonymCount
  dsimp only
  rw [Dictionary.get?_insert]
  -- The count of the name goes up by one, and all others stay.
  split
  · simp_all
  · rfl

/-- Registering a name without a number sign keeps the live classes counted. -/
theorem Counted.register {table after : ClassTable β} (formed : table.WellFormed)
    (counted : table.Counted) {definition : ClassDefinition β} {id : ClassId}
    (clean : Unnumbered definition.name)
    (registered : table.register definition = .ok (id, after)) : after.Counted := by
  -- The reference is free, so that one class is added and the others stay.
  have free := counted.nextReference_free formed clean
  have created := formed.creates registered free
  have reference := formed.get?_register registered free
  have split : ∀ {other descriptor}, after.get? other = some descriptor →
      descriptor = table.nextDescriptor definition ∨ table.get? other = some descriptor := by
    intro other descriptor found
    by_cases same : other = id
    · subst other
      rw [reference, Option.some.injEq] at found
      exact Or.inl found.symm
    · exact Or.inr (created.others other same ▸ found)
  refine ⟨fun found => ?_, fun {other descriptor} found => ?_⟩
  · rcases split found with rfl | old
    · exact clean
    · exact counted.unnumbered old
  · rcases split found with rfl | old
    · refine ⟨table.homonymCount (baseName definition.name), ?_, rfl⟩
      simp [homonymCount_register registered, nextDescriptor]
    · obtain ⟨count, below, given⟩ := counted.counted old
      refine ⟨count, ?_, given⟩
      rw [homonymCount_register registered]
      split <;> omega

/-- A class that is live after another one was taken out was live before. -/
theorem WellFormed.get?_discard {table : ClassTable β} (formed : table.WellFormed)
    {id : ClassId} {gone : ClassDescriptor β} (found : table.get? id = some gone)
    {other : ClassId} {descriptor : ClassDescriptor β} :
    (table.discard id).2.get? other = some descriptor ↔
      table.get? other = some descriptor ∧ descriptor.reference ≠ gone.reference := by
  -- The arena loses the one slot with the reference of the class.
  rw [formed.get?_eq_some, (formed.discard id).get?_eq_some, discard_of_get? found,
    formed.arena.holds_remove]

/-- A removal lowers a count only if the class taken out bore the latest reference. -/
theorem homonymCount_discard {table : ClassTable β} {id : ClassId} {gone : ClassDescriptor β}
    (found : table.get? id = some gone) (base : String) :
    (table.discard id).2.homonymCount base =
      if base = baseName gone.name ∧
          latestReference? base (table.homonymCount base) = some gone.reference
        then table.homonymCount base - 1 else table.homonymCount base := by
  simp only [discard, found]
  -- The count goes down only with the class that was counted last.
  by_cases latest : latestReference? (baseName gone.name)
      (table.homonymCount (baseName gone.name)) = some gone.reference
  · rw [if_pos latest]
    by_cases same : base = baseName gone.name
    · subst base
      rw [if_pos ⟨rfl, latest⟩]
      simp [homonymCount]
    · simp [homonymCount, Dictionary.get?_insert, same]
  · rw [if_neg latest]
    by_cases same : base = baseName gone.name
    · subst base
      rw [if_neg fun both => latest both.2]
      rfl
    · simp [homonymCount, same]

/-- Taking a class out keeps the live classes counted. -/
theorem Counted.discard {table : ClassTable β} (formed : table.WellFormed)
    (counted : table.Counted) (id : ClassId) : (table.discard id).2.Counted := by
  -- Nothing is taken out if the class is not live.
  cases found : table.get? id with
  | none => rwa [discard_of_get?_eq_none found]
  | some gone =>
    refine ⟨fun live => ?_, fun {other descriptor} live => ?_⟩
    · exact counted.unnumbered ((formed.get?_discard found).mp live).1
    · obtain ⟨old, other⟩ := (formed.get?_discard found).mp live
      obtain ⟨count, below, given⟩ := counted.counted old
      refine ⟨count, ?_, given⟩
      rw [homonymCount_discard found]
      split
      · next lowered =>
        -- The count that is given up is the one of the class that is gone.
        have apart : count ≠ table.homonymCount (baseName descriptor.name) - 1 := by
          intro last
          obtain ⟨before, counts⟩ := Nat.exists_eq_succ_of_ne_zero (Nat.ne_zero_of_lt below)
          rw [counts] at lowered last
          rw [last] at given
          exact other (given.trans (Option.some.inj lowered.2))
        omega
      · exact below

/-- If no name has a number sign the live classes stay counted. -/
theorem Reached.counted {table : ClassTable β} (reached : Reached Unnumbered table) :
    table.Counted := by
  -- The induction is on the sequence of registrations and removals.
  induction reached with
  | empty =>
    have vacant {id : ClassId} {descriptor : ClassDescriptor β} :
        (ClassTable.empty : ClassTable β).get? id ≠ some descriptor := fun found =>
      NamedArena.not_holds_empty (wellFormed_empty.get?_eq_some.mp found)
    exact ⟨fun found => absurd found vacant, fun found => absurd found vacant⟩
  | register reached clean registered counted =>
    exact counted.register reached.wellFormed clean registered
  | discard id reached counted => exact counted.discard reached.wellFormed id

/-- Registering creates a new class exactly if no live class bears the reference that it gives,
which is so whenever no name that was ever registered has a number sign. -/
theorem register_creates_iff {allowed : String → Prop} {table after : ClassTable β}
    (reached : Reached allowed table) {definition : ClassDefinition β} {id : ClassId}
    (registered : table.register definition = .ok (id, after)) :
    (Creates table after id definition ↔
        table.getByReference? (table.nextReference definition.name) = none) ∧
      (Reached Unnumbered table → Unnumbered definition.name →
        Creates table after id definition) := by
  have formed := reached.wellFormed
  refine ⟨⟨fun created => ?_, formed.creates registered⟩, fun clean named => ?_⟩
  · -- A bearer of the reference would have been live under the id that is given out.
    refine Option.eq_none_iff_forall_ne_some.mpr fun ⟨live, held⟩ taken => ?_
    obtain ⟨rfl, _⟩ := formed.register_merges registered taken
    have found := (formed.getByReference?_eq_some.mp taken).1
    rw [created.fresh] at found
    contradiction
  · exact formed.creates registered (clean.counted.nextReference_free formed named)

/-- A class that has nothing but a name. -/
def named (name : String) : ClassDefinition Unit :=
  ⟨name, none, none, Dictionary.empty, Dictionary.empty⟩

/-- The second class of a name is a new one. -/
theorem register_creates_homonym :
    let first := (empty : ClassTable Unit).register (named "A")
    ∃ one two id, first = .ok (⟨0⟩, one) ∧ one.register (named "A") = .ok (id, two) ∧
      one.getByReference? (one.nextReference "A") = none ∧
      Creates one two id (named "A") := by
  intro first
  have clean : Unnumbered (named "A").name := by decide
  obtain ⟨one, two, registered, again⟩ : ∃ one two,
      (empty : ClassTable Unit).register (named "A") = .ok (⟨0⟩, one) ∧
        one.register (named "A") = .ok (⟨1⟩, two) := ⟨_, _, rfl, rfl⟩
  -- The first class has been registered under a clean name.
  have reached := Reached.register .empty clean registered
  have created := (register_creates_iff reached again).2 reached clean
  exact ⟨one, two, ⟨1⟩, registered, again, (register_creates_iff reached again).1.mp created,
    created⟩

/-- A class that is named like the reference of a live one is not created. -/
theorem register_merges_numbered_name :
    ∃ (table after : ClassTable Unit) (id : ClassId), Reached (fun _ => True) table ∧
      table.register (named "A#1") = .ok (id, after) ∧
      ¬ Creates table after id (named "A#1") := by
  have first : (empty : ClassTable Unit).register (named "A") = .ok (⟨0⟩, _) := rfl
  have one : Reached (fun _ => True) _ := .register .empty trivial first
  have two := @Reached.register _ _ _ _ (named "A") ⟨1⟩ one trivial rfl
  -- The second class named `A` bears the reference `A#1`.
  refine ⟨_, _, ⟨1⟩, two, rfl, fun created => ?_⟩
  -- A class more would have to be there.
  have size := created.size
  contradiction

end AspectWeaving.ClassTable
