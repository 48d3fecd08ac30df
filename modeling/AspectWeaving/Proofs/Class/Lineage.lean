import AspectWeaving.Class.Hierarchy
import AspectWeaving.Proofs.Class.Registration
import Mathlib.Data.List.Nodup
import Mathlib.Data.List.Perm.Subperm

/-! Lineages: the way from a class up to the root of its hierarchy, and what leaves it alone. -/

namespace AspectWeaving.ClassTable

variable {β : Type} {table before after : ClassTable β} {id other : ClassId}
  {path : List ClassId} {descriptor : ClassDescriptor β}

/-- The way from a live class to the root of its hierarchy, along live parents. -/
inductive Climbs (table : ClassTable β) : ClassId → List ClassId → Prop where
  | root {id : ClassId} {descriptor : ClassDescriptor β}
      (live : table.get? id = some descriptor) (top : descriptor.parent = none) :
      Climbs table id [id]
  | child {id parent : ClassId} {descriptor : ClassDescriptor β} {path : List ClassId}
      (live : table.get? id = some descriptor) (below : descriptor.parent = some parent)
      (climbs : Climbs table parent path) : Climbs table id (id :: path)

/-- Every live class has a way to a root: no hierarchy has a cycle or a gap. -/
def Rooted (table : ClassTable β) : Prop :=
  ∀ ⦃id descriptor⦄, table.get? id = some descriptor → ∃ path, table.Climbs id path

/-- A live class that no live class has as its parent. -/
structure Childless (table : ClassTable β) (id : ClassId) : Prop where
  live : ∃ descriptor, table.get? id = some descriptor
  childless : ∀ {child descriptor},
    table.get? child = some descriptor → descriptor.parent ≠ some id

namespace Climbs

/-- There is only one way up. -/
theorem eq (climbs : table.Climbs id path) {again : List ClassId}
    (repeated : table.Climbs id again) : path = again := by
  -- The induction is on the first way; the second one has to take the same turns.
  induction climbs generalizing again with
  | root live top =>
    cases repeated with
    | root => rfl
    | child live' below _ =>
      -- The class cannot both have a parent and have none.
      rw [live, Option.some.injEq] at live'
      rw [← live', top] at below
      contradiction
  | child live below _ ih =>
    cases repeated with
    | root live' top =>
      rw [live, Option.some.injEq] at live'
      -- Here the first way goes on and the second one claims to be at its end.
      rw [← live', below] at top
      contradiction
    | child live' below' climbs' =>
      rw [live, Option.some.injEq] at live'
      -- Both go on, and to the same parent.
      rw [← live', below, Option.some.injEq] at below'
      subst below'
      rw [ih climbs']

/-- The way starts with the class itself. -/
theorem mem_self (climbs : table.Climbs id path) : id ∈ path := by
  -- Every way starts with the class itself.
  cases climbs <;> exact List.mem_cons_self

/-- Every class on the way is live. -/
theorem live (climbs : table.Climbs id path) (member : other ∈ path) :
    ∃ descriptor, table.get? other = some descriptor := by
  induction climbs with
  | root live _ =>
    obtain rfl := List.mem_singleton.mp member
    exact ⟨_, live⟩
  | child live _ _ ih =>
    -- The class is the first one, or it is passed later.
    rcases List.mem_cons.mp member with rfl | later
    · exact ⟨_, live⟩
    · exact ih later

/-- From every class on the way the rest of the way leads to the root. -/
theorem suffix (climbs : table.Climbs id path) (member : other ∈ path) :
    ∃ rest, table.Climbs other rest ∧ rest <:+ path := by
  induction climbs with
  | root live top =>
    obtain rfl := List.mem_singleton.mp member
    exact ⟨_, .root live top, List.suffix_refl _⟩
  | child live below climbs ih =>
    -- From the first class on it is the whole way, from a later one a part of it.
    rcases List.mem_cons.mp member with rfl | later
    · exact ⟨_, .child live below climbs, List.suffix_refl _⟩
    · obtain ⟨rest, climbs, part⟩ := ih later
      exact ⟨rest, climbs, part.trans (List.suffix_cons _ _)⟩

/-- No class is passed twice. -/
theorem nodup (climbs : table.Climbs id path) : path.Nodup := by
  induction climbs with
  | root => simp
  | @child id parent descriptor path live below climbs ih =>
    refine List.nodup_cons.mpr ⟨fun member => ?_, ih⟩
    -- From a second passage the way to the root would be shorter than it is.
    obtain ⟨rest, again, part⟩ := climbs.suffix member
    have same := again.eq (.child live below climbs)
    have shorter := part.length_le
    rw [same, List.length_cons] at shorter
    omega

/-- A class beyond the first is the parent of a live class. -/
theorem parent_of_mem (climbs : table.Climbs id path) (member : other ∈ path)
    (different : other ≠ id) :
    ∃ child descriptor, table.get? child = some descriptor ∧ descriptor.parent = some other := by
  induction climbs with
  | root => exact absurd (List.mem_singleton.mp member) different
  | @child id parent descriptor path live below climbs ih =>
    have later : other ∈ path := by
      rcases List.mem_cons.mp member with same | later
      · exact absurd same different
      · exact later
    -- The class is the next one, or it is the parent of one further up.
    by_cases next : other = parent
    · subst next
      exact ⟨id, descriptor, live, below⟩
    · exact ih later next

/-- A class without children is on no way but its own. -/
theorem notMem_of_childless (climbs : before.Climbs id path) (last : before.Childless other)
    (different : other ≠ id) : other ∉ path := by
  -- Whoever comes on the way behind the first class is a parent.
  intro member
  obtain ⟨child, descriptor, live, below⟩ := climbs.parent_of_mem member different
  exact last.childless live below

/-- A way stays as it is if its classes do. -/
theorem mono (climbs : before.Climbs id path)
    (agree : ∀ passed ∈ path, after.get? passed = before.get? passed) : after.Climbs id path := by
  -- Whether the way goes on is decided by classes that are as they were.
  induction climbs with
  | root live top => exact .root ((agree _ List.mem_cons_self).trans live) top
  | child live below _ ih =>
    refine .child ((agree _ List.mem_cons_self).trans live) below (ih fun passed member => ?_)
    exact agree passed (List.mem_cons_of_mem _ member)

/-- A way has no more classes than the table has slots. -/
theorem length_le (climbs : table.Climbs id path) :
    path.length ≤ table.arena.slots.length := by
  -- Every class on the way fills a slot.
  have within {passed : ClassId} (member : passed ∈ path) :
      passed.number < table.arena.slots.length := by
    obtain ⟨descriptor, live⟩ := climbs.live member
    obtain ⟨name, holds⟩ := NamedArena.get?_eq_some.mp live
    exact (List.getElem?_eq_some_iff.mp holds).1
  -- The numbers on the way are distinct numbers of slots.
  have distinct : (path.map ClassId.number).Nodup := by
    refine List.Nodup.map (fun x y same => ?_) climbs.nodup
    cases x
    cases y
    exact congrArg ClassId.mk same
  have slots : path.map ClassId.number ⊆ List.range table.arena.slots.length := by
    intro number listed
    obtain ⟨passed, member, rfl⟩ := List.mem_map.mp listed
    exact List.mem_range.mpr (within member)
  simpa using (distinct.subperm slots).length_le

/-- Climbing high enough goes the whole way. -/
theorem climb_eq (climbs : table.Climbs id path) {bound : Nat} (enough : path.length ≤ bound) :
    table.climb bound id = path := by
  -- One step of the bound is used up by each class on the way.
  induction climbs generalizing bound with
  | root live top =>
    cases bound with
    | zero => simp at enough
    | succ bound => simp [climb, live, top]
  | child live below _ ih =>
    cases bound with
    | zero => simp at enough
    | succ bound =>
      have shorter := ih (Nat.le_of_succ_le_succ enough)
      simp [climb, live, below, shorter]

/-- The ancestry of a class is the way to its root. -/
theorem ancestry_eq (climbs : table.Climbs id path) : table.ancestry id = path :=
  -- The bound is the number of slots, and no way is longer.
  climbs.climb_eq climbs.length_le

/-- A lineage stays as it is if its classes do. -/
theorem lineage_eq (climbs : before.Climbs id path)
    (agree : ∀ passed ∈ path, after.get? passed = before.get? passed) :
    after.lineage id = before.lineage id := by
  -- The way is the same, and the classes on it have the same descriptors.
  unfold lineage
  rw [climbs.ancestry_eq, (climbs.mono agree).ancestry_eq]
  refine List.filterMap_congr fun passed member => ?_
  rw [agree passed member]

/-- The classes of a lineage are on the way to the root. -/
theorem mem_of_mem_lineage (climbs : table.Climbs id path) {pair : ClassId × ClassDescriptor β}
    (member : pair ∈ table.lineage id) : pair.1 ∈ path := by
  -- A lineage has no more classes than the way.
  unfold lineage at member
  rw [climbs.ancestry_eq] at member
  obtain ⟨passed, onWay, found⟩ := List.mem_filterMap.mp member
  obtain ⟨descriptor, _, rfl⟩ := Option.map_eq_some_iff.mp found
  exact onWay

end Climbs

/-- The table without classes is rooted. -/
theorem rooted_empty : (empty : ClassTable β).Rooted :=
  -- There are no classes.
  fun _ _ found =>
  absurd (wellFormed_empty.get?_eq_some.mp found) NamedArena.not_holds_empty

/-- A table with the same classes in the same slots is rooted as well. -/
theorem Rooted.of_arena_eq (rooted : before.Rooted) (same : after.arena = before.arena) :
    after.Rooted := by
  -- Ways lead through the slots alone.
  have slots (id : ClassId) : after.get? id = before.get? id := by simp only [get?, same]
  intro id descriptor live
  rw [slots] at live
  obtain ⟨path, climbs⟩ := rooted live
  exact ⟨path, climbs.mono fun passed _ => slots passed⟩

/-- A created class changes nothing on the way of another one. -/
theorem Creates.agree {definition : ClassDefinition β}
    (created : Creates before after other definition)
    (climbs : before.Climbs id path) :
    ∀ passed ∈ path, after.get? passed = before.get? passed := by
  intro passed member
  refine created.others passed ?_
  -- The created class was not live, and those on the way are.
  rintro rfl
  obtain ⟨descriptor, live⟩ := climbs.live member
  rw [created.fresh] at live
  contradiction

/-- Creating a class below a live one keeps a table rooted. -/
theorem Rooted.creates (rooted : before.Rooted) {definition : ClassDefinition β}
    (created : Creates before after other definition)
    (parents : ∀ parent, definition.parent = some parent →
      ∃ held, before.get? parent = some held) : after.Rooted := by
  intro id descriptor live
  -- The new class is one step below its parent; all others are where they were.
  by_cases new : id = other
  · subst new
    obtain ⟨kept, found, defined, _⟩ := created.kept
    rw [live, Option.some.injEq] at found
    subst found
    cases parentage : descriptor.parent with
    | none => exact ⟨_, .root live parentage⟩
    | some parent =>
      rw [← defined] at parents
      obtain ⟨held, above⟩ := parents parent parentage
      obtain ⟨path, climbs⟩ := rooted above
      exact ⟨_, .child live parentage (climbs.mono (created.agree climbs))⟩
  · rw [created.others id new] at live
    obtain ⟨path, climbs⟩ := rooted live
    exact ⟨path, climbs.mono (created.agree climbs)⟩

/-- A created class has no children. -/
theorem Creates.childless (rooted : before.Rooted) {definition : ClassDefinition β}
    (created : Creates before after other definition)
    (parents : ∀ parent, definition.parent = some parent →
      ∃ held, before.get? parent = some held) : after.Childless other := by
  obtain ⟨kept, found, defined, _⟩ := created.kept
  refine ⟨⟨kept, found⟩, fun {child descriptor} live below => ?_⟩
  -- Every parent was live before the class was created, and the class was not.
  have above : ∃ held, before.get? other = some held := by
    -- The new class was registered below a live one, and so not below itself.
    by_cases new : child = other
    · subst new
      rw [live, Option.some.injEq] at found
      subst found
      exact parents child (defined ▸ below)
    · rw [created.others child new] at live
      obtain ⟨path, climbs⟩ := rooted live
      cases climbs with
      | root live' top =>
        rw [live, Option.some.injEq] at live'
        rw [← live', below] at top
        contradiction
      | child live' below' climbs =>
        rw [live, Option.some.injEq] at live'
        rw [← live', below, Option.some.injEq] at below'
        subst below'
        exact climbs.live (by cases climbs <;> exact List.mem_cons_self)
  obtain ⟨held, above⟩ := above
  rw [created.fresh] at above
  contradiction

/-- A class that is taken out is gone, and the other classes are as they were. -/
theorem WellFormed.get?_discard_eq (formed : before.WellFormed)
    (live : before.get? other = some descriptor) (id : ClassId) :
    (before.discard other).2.get? id = if id = other then none else before.get? id := by
  refine Option.ext fun held => ?_
  rw [formed.get?_discard live]
  by_cases same : id = other
  · subst same
    rw [if_pos rfl, live]
    simp only [Option.some.injEq, reduceCtorEq, iff_false, not_and, not_not]
    rintro rfl
    rfl
  · rw [if_neg same]
    -- Another live class bears another reference.
    exact and_iff_left_of_imp fun found shared =>
      same (formed.reference_inj found live shared)

/-- Registering a class, merged or not, leaves the lineages of live classes as they are. -/
theorem WellFormed.lineage_register (formed : before.WellFormed) (rooted : before.Rooted)
    {definition : ClassDefinition β} (registered : before.register definition = .ok (other, after))
    (live : before.get? id = some descriptor) : after.lineage id = before.lineage id := by
  -- Registering a class changes no descriptor on the way.
  obtain ⟨path, climbs⟩ := rooted live
  refine climbs.lineage_eq fun passed member => ?_
  obtain ⟨held, found⟩ := climbs.live member
  rw [found, formed.get?_register_of_get? registered found]

/-- Discarding one class, live or not, leaves the others as they are. -/
theorem WellFormed.get?_discard_of_ne (formed : before.WellFormed) (id : ClassId)
    (different : other ≠ id) : (before.discard id).2.get? other = before.get? other := by
  -- One descriptor goes, if any.
  cases live : before.get? id with
  | none => rw [discard_of_get?_eq_none live]
  | some descriptor => rw [formed.get?_discard_eq live, if_neg different]

/-- Discarding what is no parent of a live class leaves the lineages of the others as they are. -/
theorem WellFormed.lineage_discard (formed : before.WellFormed) (rooted : before.Rooted)
    (last : ∀ {child descriptor}, before.get? child = some descriptor →
      descriptor.parent ≠ some other)
    (live : before.get? id = some descriptor) (different : id ≠ other) :
    (before.discard other).2.lineage id = before.lineage id := by
  obtain ⟨path, climbs⟩ := rooted live
  refine climbs.lineage_eq fun passed member => formed.get?_discard_of_ne other ?_
  -- Beyond its start the way passes parents of live classes only.
  rintro rfl
  obtain ⟨child, descriptor, live, below⟩ := climbs.parent_of_mem member different.symm
  exact last live below

/-- Taking a class without children out keeps a table rooted. -/
theorem Rooted.discard (rooted : before.Rooted) (formed : before.WellFormed)
    (last : before.Childless other) : (before.discard other).2.Rooted := by
  -- The class that goes is on nobody's way but its own, as it has no children.
  obtain ⟨gone, live⟩ := last.live
  intro id descriptor found
  rw [formed.get?_discard_eq live] at found
  split at found
  · contradiction
  · next different =>
    obtain ⟨path, climbs⟩ := rooted found
    refine ⟨path, climbs.mono fun passed member => ?_⟩
    rw [formed.get?_discard_eq live, if_neg]
    rintro rfl
    exact climbs.notMem_of_childless last (Ne.symm different) member

end AspectWeaving.ClassTable
