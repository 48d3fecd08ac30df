import AspectWeaving.Proofs.Class.Undoing
import Mathlib.Data.List.Chain
import Mathlib.Logic.Relation

/-! Hierarchies of classes whose slots are reused: every walk up ends at a root, however the numbers
of the slots on it are ordered, and descending from each other orders the live classes. -/

namespace AspectWeaving

/-- A call that registers or discards a class. -/
inductive ClassCall (β : Type) where
  | register (definition : ClassDefinition β)
  | discard (id : ClassId)

namespace ClassTable

variable {β : Type} {table : ClassTable β} {id child parent other : ClassId} {path : List ClassId}

/-- A live class was registered below another one. -/
def ParentOf (table : ClassTable β) (child parent : ClassId) : Prop :=
  ∃ descriptor, table.get? child = some descriptor ∧ descriptor.parent = some parent

/-- The table after a call; a registration that fails changes nothing. -/
def perform (table : ClassTable β) : ClassCall β → ClassTable β
  | .register definition =>
    match table.register definition with
    | .ok (_, after) => after
    | .error _ => table
  | .discard id => (table.discard id).2

/-- Anything may be registered; what is discarded has no live class below it. -/
def Allows (table : ClassTable β) : ClassCall β → Prop
  | .register _ => True
  | .discard id => ∀ child, ¬ table.ParentOf child id

/-- What any sequence of calls, each allowed when it is made, makes of the table without classes. -/
inductive Maintained : ClassTable β → Prop where
  | empty : Maintained empty
  | call {table : ClassTable β} {call : ClassCall β} (maintained : Maintained table)
      (allowed : table.Allows call) : Maintained (table.perform call)

/-- A registration is always allowed. -/
theorem Maintained.register (maintained : Maintained table) (definition : ClassDefinition β) :
    Maintained (table.perform (.register definition)) := .call maintained trivial

/-- A maintained table is a tended one. -/
theorem Maintained.tended (maintained : Maintained table) : Tended (fun _ => True) table := by
  -- The induction is on the sequence of calls.
  induction maintained with
  | empty => exact .empty
  | @call table call _ allowed tended =>
    cases call with
    | register definition =>
      unfold perform
      dsimp only
      split
      · next registered => exact .register tended trivial registered
      · exact tended
    | discard id =>
      unfold perform
      dsimp only
      -- There is nothing to discard in a slot without a class.
      cases live : table.get? id with
      | none => rwa [discard_of_get?_eq_none live]
      | some descriptor =>
        exact .discard tended ⟨⟨descriptor, live⟩, fun found below => allowed _ ⟨_, found, below⟩⟩

/-- A way up starts with its class. -/
theorem Climbs.head?_eq (climbs : table.Climbs id path) : path.head? = some id := by
  -- Both ways to climb start with the class itself.
  cases climbs <;> rfl

/-- A way up goes from each class to its parent. -/
theorem Climbs.isChain (climbs : table.Climbs id path) : path.IsChain table.ParentOf := by
  -- The induction is on the climb: its first step is to the parent, where the rest starts.
  induction climbs with
  | root => exact .singleton _
  | child live below climbs ih =>
    refine List.isChain_cons.mpr ⟨fun next first => ?_, ih⟩
    rw [climbs.head?_eq, Option.mem_some_iff] at first
    subst first
    exact ⟨_, live, below⟩

/-- A way up ends at a class without a parent. -/
theorem Climbs.root_of_getLast? (climbs : table.Climbs id path) {last : ClassId}
    (ends : path.getLast? = some last) :
    ∃ descriptor, table.get? last = some descriptor ∧ descriptor.parent = none := by
  induction climbs with
  | root live top =>
    obtain rfl : _ = last := by simpa using ends
    exact ⟨_, live, top⟩
  | @child id parent descriptor path live below climbs ih =>
    -- There is a class further up, and the way ends where the rest of it does.
    obtain ⟨next, more, same⟩ := List.exists_cons_of_ne_nil (List.ne_nil_of_mem climbs.mem_self)
    subst same
    rw [List.getLast?_cons_cons] at ends
    exact ih ends

/-- A slot without a class has no ancestry, however far the walk may go. -/
theorem climb_of_get?_eq_none (dead : table.get? id = none) (bound : Nat) :
    table.climb bound id = [] := by
  -- A class that is gone is not even the first one on its way.
  cases bound <;> simp [climb, dead]

/-- Every class that is passed on the walk up is live. -/
theorem exists_of_mem_climb {bound : Nat} (member : other ∈ table.climb bound id) :
    ∃ descriptor, table.get? other = some descriptor := by
  -- The induction is on the bound; a climb stops at a class that is gone.
  induction bound generalizing id with
  | zero => simp [climb] at member
  | succ bound ih =>
    cases live : table.get? id with
    | none => simp [climb, live] at member
    | some descriptor =>
      cases above : descriptor.parent with
      | none =>
        simp only [climb, live, above, List.mem_singleton] at member
        exact ⟨descriptor, member ▸ live⟩
      | some parent =>
        simp only [climb, live, above, List.mem_cons] at member
        rcases member with rfl | later
        · exact ⟨descriptor, live⟩
        · exact ih later

/-- The classes of a lineage are those of the ancestry. -/
theorem map_fst_lineage (table : ClassTable β) (id : ClassId) :
    (table.lineage id).map Prod.fst = table.ancestry id := by
  -- Every class of an ancestry is live, so that none is left out of the lineage.
  unfold lineage
  rw [List.map_filterMap]
  refine (List.filterMap_congr fun passed member => ?_).trans List.filterMap_some
  obtain ⟨descriptor, live⟩ := exists_of_mem_climb member
  rw [live]
  rfl

/-- The ancestry of a live class starts with the class, wherever its parents may lead. -/
theorem take_one_ancestry {descriptor : ClassDescriptor β}
    (live : table.get? id = some descriptor) :
    (table.ancestry id).take 1 = [id] := by
  obtain ⟨name, holds⟩ := NamedArena.get?_eq_some.mp live
  have filled := (List.getElem?_eq_some_iff.mp holds).1
  -- There is a slot for the class at least.
  obtain ⟨bound, slots⟩ := Nat.exists_eq_succ_of_ne_zero (Nat.ne_zero_of_lt filled)
  unfold ancestry
  rw [slots, climb, live]
  cases above : descriptor.parent <;> simp [above]

/-- The walk up from a class comes to an end: more steps than there are slots find nothing more. -/
def Ends (table : ClassTable β) (id : ClassId) : Prop :=
  ∀ bound, table.arena.slots.length ≤ bound → table.climb bound id = table.ancestry id

/-- From a class that is passed on a walk up, the same walk goes on. -/
theorem climb_suffix {bound : Nat} (member : other ∈ table.climb bound id) :
    ∃ left, ∀ more, table.climb (left + more) other <:+ table.climb (bound + more) id := by
  -- The induction is on the steps that are allowed.
  induction bound generalizing id with
  | zero => simp [climb] at member
  | succ bound ih =>
    have whole : other = id → ∃ left, ∀ more,
        table.climb (left + more) other <:+ table.climb (bound + 1 + more) id := by
      rintro rfl
      exact ⟨bound + 1, fun more => List.suffix_refl _⟩
    cases live : table.get? id with
    | none => simp [climb, live] at member
    | some descriptor =>
      cases above : descriptor.parent with
      | none =>
        simp only [climb, live, above, List.mem_singleton] at member
        exact whole member
      | some parent =>
        simp only [climb, live, above, List.mem_cons] at member
        rcases member with same | later
        · exact whole same
        · obtain ⟨left, goes⟩ := ih later
          refine ⟨left, fun more => (goes more).trans ?_⟩
          rw [Nat.add_right_comm]
          simp only [climb, live, above]
          exact List.suffix_cons _ _

/-- No class is passed twice on a walk up that finds nothing more with more steps. -/
theorem nodup_climb {bound : Nat}
    (ends : ∀ more, table.climb (bound + more) id = table.climb bound id) :
    (table.climb bound id).Nodup := by
  induction bound generalizing id with
  | zero => simp [climb]
  | succ bound ih =>
    cases live : table.get? id with
    | none => simp [climb, live]
    | some descriptor =>
      cases above : descriptor.parent with
      | none => simp [climb, live, above]
      | some parent =>
        have further (more : Nat) :
            table.climb (bound + more) parent = table.climb bound parent := by
          have same := ends more
          rw [Nat.add_right_comm] at same
          simpa [climb, live, above] using same
        simp only [climb, live, above]
        refine List.nodup_cons.mpr ⟨fun member => ?_, ih further⟩
        -- From a second passage the walk would have to find all of it again.
        obtain ⟨left, goes⟩ := climb_suffix member
        have part := (goes (bound + 1)).length_le
        rw [further, Nat.add_comm left, ends left] at part
        simp only [climb, live, above, List.length_cons] at part
        omega

/-- A walk up that comes to an end passes no class twice. -/
theorem Ends.nodup (ends : table.Ends id) : (table.ancestry id).Nodup :=
  -- Climbing any further than the bound meets no more classes.
  nodup_climb fun more => ends _ (Nat.le_add_right _ more)

/-- Classes below each other form hierarchies, in which the walk up from any class comes to its end
and descending orders the live classes. -/
structure Hierarchical (table : ClassTable β) : Prop where
  parents : ∀ {child parent}, table.ParentOf child parent →
    ∃ descriptor, table.get? parent = some descriptor
  acyclic : ∀ id, ¬ Relation.TransGen table.ParentOf id id
  -- A walk that is allowed more steps than there are slots finds nothing more.
  ends : ∀ id bound, table.arena.slots.length ≤ bound → table.climb bound id = table.ancestry id
  dead : ∀ {id}, table.get? id = none → table.ancestry id = []
  starts : ∀ {id descriptor}, table.get? id = some descriptor →
    (table.ancestry id).head? = some id
  upwards : ∀ id, (table.ancestry id).IsChain table.ParentOf
  nodup : ∀ id, (table.ancestry id).Nodup
  root : ∀ {id last}, (table.ancestry id).getLast? = some last →
    ∃ descriptor, table.get? last = some descriptor ∧ descriptor.parent = none
  refl : ∀ {id descriptor}, table.get? id = some descriptor → table.isSubclassOf id id = true
  antisymm : ∀ {x y}, table.isSubclassOf x y = true → table.isSubclassOf y x = true → x = y
  trans : ∀ {x y z}, table.isSubclassOf x y = true → table.isSubclassOf y z = true →
    table.isSubclassOf x z = true

namespace Rooted

/-- The parent of a live class is live. -/
theorem exists_parent (rooted : table.Rooted) (below : table.ParentOf child parent) :
    ∃ descriptor, table.get? parent = some descriptor := by
  obtain ⟨descriptor, live, above⟩ := below
  obtain ⟨path, climbs⟩ := rooted live
  -- The way goes on to the parent and passes live classes only.
  cases climbs with
  | root live' top =>
    rw [live, Option.some.injEq] at live'
    rw [← live', above] at top
    contradiction
  | child live' above' climbs =>
    rw [live, Option.some.injEq] at live'
    rw [← live', above, Option.some.injEq] at above'
    subst above'
    exact climbs.live climbs.mem_self

/-- The ancestry of a class is its way to the root, or nothing if the class is not live. -/
theorem ancestry_cases (rooted : table.Rooted) (id : ClassId) :
    (table.get? id = none ∧ table.ancestry id = []) ∨ table.Climbs id (table.ancestry id) := by
  -- A live class has a way to a root, and this is its ancestry.
  cases live : table.get? id with
  | none => exact .inl ⟨rfl, climb_of_get?_eq_none live _⟩
  | some descriptor =>
    obtain ⟨path, climbs⟩ := rooted live
    exact .inr (climbs.ancestry_eq.symm ▸ climbs)

/-- A class that is further up is passed on the way, and not first. -/
theorem exists_climbs_of_transGen (rooted : table.Rooted)
    (above : Relation.TransGen table.ParentOf child parent) :
    ∃ path, table.Climbs child (child :: path) ∧ parent ∈ path := by
  -- The induction is on the steps up, of which the first one is taken off.
  induction above using Relation.TransGen.head_induction_on with
  | single below =>
    obtain ⟨held, live⟩ := rooted.exists_parent below
    obtain ⟨path, climbs⟩ := rooted live
    obtain ⟨descriptor, found, parentage⟩ := below
    exact ⟨path, .child found parentage climbs, climbs.mem_self⟩
  | head below _ ih =>
    obtain ⟨path, climbs, member⟩ := ih
    obtain ⟨descriptor, found, parentage⟩ := below
    exact ⟨_, .child found parentage climbs, List.mem_cons_of_mem _ member⟩

/-- A class descends from another one if the other one is on its way up. -/
theorem isSubclassOf_iff (rooted : table.Rooted) {x y : ClassId} :
    table.isSubclassOf x y = true ↔ ∃ path, table.Climbs x path ∧ y ∈ path := by
  -- The ancestry of a class is the only way up from it.
  unfold isSubclassOf
  rw [List.contains_iff_mem]
  constructor
  · intro member
    rcases rooted.ancestry_cases x with ⟨-, nothing⟩ | climbs
    · simp [nothing] at member
    · exact ⟨_, climbs, member⟩
  · intro ⟨path, climbs, member⟩
    rwa [climbs.ancestry_eq]

/-- Where every live class has a way to a root, the classes form hierarchies. -/
theorem hierarchical (rooted : table.Rooted) : table.Hierarchical where
  parents := rooted.exists_parent
  acyclic id above := by
    obtain ⟨path, climbs, again⟩ := rooted.exists_climbs_of_transGen above
    exact (List.nodup_cons.mp climbs.nodup).1 again
  ends id bound enough := by
    rcases rooted.ancestry_cases id with ⟨dead, nothing⟩ | climbs
    · rw [nothing, climb_of_get?_eq_none dead]
    · exact climbs.climb_eq (Nat.le_trans climbs.length_le enough)
  dead none := climb_of_get?_eq_none none _
  starts {id descriptor} live := by
    obtain ⟨path, climbs⟩ := rooted live
    rw [climbs.ancestry_eq, climbs.head?_eq]
  upwards id := by
    rcases rooted.ancestry_cases id with ⟨-, nothing⟩ | climbs
    · rw [nothing]
      exact .nil
    · exact climbs.isChain
  nodup id := by
    rcases rooted.ancestry_cases id with ⟨-, nothing⟩ | climbs
    · simp [nothing]
    · exact climbs.nodup
  root {id last} ends := by
    rcases rooted.ancestry_cases id with ⟨-, nothing⟩ | climbs
    · simp [nothing] at ends
    · exact climbs.root_of_getLast? ends
  refl live := by
    obtain ⟨path, climbs⟩ := rooted live
    exact rooted.isSubclassOf_iff.mpr ⟨path, climbs, climbs.mem_self⟩
  antisymm {x y} below above := by
    obtain ⟨path, climbs, member⟩ := rooted.isSubclassOf_iff.mp below
    obtain ⟨path', climbs', member'⟩ := rooted.isSubclassOf_iff.mp above
    -- Each way ends with the whole of the other one, and so they are the same way.
    obtain ⟨rest, again, part⟩ := climbs.suffix member
    obtain ⟨rest', again', part'⟩ := climbs'.suffix member'
    rw [again.eq climbs'] at part
    rw [again'.eq climbs] at part'
    have same : path' = path := part.eq_of_length_le part'.length_le
    have first := climbs.head?_eq
    rw [← same, climbs'.head?_eq, Option.some.injEq] at first
    exact first.symm
  trans {x y z} below above := by
    obtain ⟨path, climbs, member⟩ := rooted.isSubclassOf_iff.mp below
    obtain ⟨path', climbs', member'⟩ := rooted.isSubclassOf_iff.mp above
    -- What is above the second class is on the way of the first one.
    obtain ⟨rest, again, part⟩ := climbs.suffix member
    rw [again.eq climbs'] at part
    exact rooted.isSubclassOf_iff.mpr ⟨path, climbs, part.subset member'⟩

end Rooted

/-- Whatever is registered, and as long as nothing is discarded that has a live class below it, the
classes form hierarchies. -/
theorem hierarchical_of_maintained (maintained : Maintained table) : table.Hierarchical :=
  -- Calls that tend a table leave each class a way to a root.
  maintained.tended.rooted.hierarchical

/-- A class in a slot that is used again lies below one with a higher number. -/
theorem hierarchical_of_reused_slot :
    let calls : List (ClassCall Unit) :=
      [.register (named "A"), .register (named "B"), .discard ⟨0⟩,
        .register { named "C" with parent := some ⟨1⟩ }]
    let table := calls.foldl perform empty
    Maintained table ∧ table.ancestry ⟨0⟩ = [⟨0⟩, ⟨1⟩] ∧ table.Hierarchical := by
  intro calls table
  have two : Maintained ((calls.take 2).foldl perform empty) :=
    (Maintained.empty.register (named "A")).register (named "B")
  -- Neither of the two classes that are there has a parent.
  have allowed : Allows ((calls.take 2).foldl perform empty) (.discard ⟨0⟩) := by
    intro ⟨child⟩ ⟨descriptor, live, below⟩
    match child with
    | 0 =>
      obtain rfl := Option.some.inj live
      contradiction
    | 1 =>
      obtain rfl := Option.some.inj live
      contradiction
    | 2 | 3 => contradiction
    | n + 4 => contradiction
  have maintained : Maintained table :=
    (two.call allowed).register { named "C" with parent := some ⟨1⟩ }
  exact ⟨maintained, rfl, hierarchical_of_maintained maintained⟩

end ClassTable

end AspectWeaving
