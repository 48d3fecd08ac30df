import AspectWeaving.Proofs.NamedArena.Regrowth
import Mathlib.Data.List.Induction
import Mathlib.Data.List.Nodup

/-! Whatever calls are made of an arena, it is the finite map in which each name has the value that
was first added under it since the name was last removed. -/

namespace AspectWeaving.NamedArena

variable {α : Type} {arena : NamedArena α} {name : String} {id : Nat} {value : α}

/-- A call that may change an arena. -/
inductive Call (α : Type) where
  | add (name : String) (value : α)
  | remove (name : String)

/-- What becomes of an arena by a call. -/
def perform (arena : NamedArena α) : Call α → NamedArena α
  | .add name value => (arena.add name value).2
  | .remove name => (arena.remove name).2

/-- What becomes of an arena by calls, the first of them first. -/
def performAll (arena : NamedArena α) (calls : List (Call α)) : NamedArena α :=
  calls.foldl perform arena

/-- The values added under a name since it was last removed, after one more call. -/
def Call.note (name : String) (values : List α) : Call α → List α
  | .add other value => if other = name then values ++ [value] else values
  | .remove other => if other = name then [] else values

/-- The values that calls have added under a name since they last removed it, oldest first. -/
def addedSince (name : String) (calls : List (Call α)) : List α := calls.foldl (Call.note name) []

/-- One more call is made of the arena that the calls before it leave. -/
theorem performAll_concat (arena : NamedArena α) (calls : List (Call α)) (call : Call α) :
    arena.performAll (calls ++ [call]) = (arena.performAll calls).perform call := by
  simp [performAll]

/-- One more call is noted after those before it. -/
theorem addedSince_concat (name : String) (calls : List (Call α)) (call : Call α) :
    addedSince name (calls ++ [call]) = call.note name (addedSince name calls) := by
  simp [addedSince]

/-- A well-formed arena finds under a name what a slot holds under it. -/
theorem WellFormed.find?_eq_some (formed : arena.WellFormed) :
    arena.find? name = some value ↔ ∃ id, arena.Holds id name value := by
  -- A name is found if it has a slot, and the slot holds its value.
  unfold NamedArena.find?
  rw [Option.bind_eq_some_iff]
  constructor
  · rintro ⟨id, found, got⟩
    obtain ⟨held, holds⟩ := holds_of_idOf? found
    have same : held = value := Option.some.inj (holds.get?.symm.trans got)
    exact ⟨id, same ▸ holds⟩
  · rintro ⟨id, holds⟩
    exact ⟨id, formed.idOf?_eq_some.mpr ⟨value, holds⟩, holds.get?⟩

/-- A name has a slot exactly if it has a value. -/
theorem WellFormed.idOf?_eq_none_iff (formed : arena.WellFormed) :
    arena.idOf? name = none ↔ arena.find? name = none := by
  -- Both sides say that no slot holds the name.
  rw [idOf?_eq_none, Option.eq_none_iff_forall_ne_some]
  simp only [ne_eq, formed.find?_eq_some, not_exists]
  exact ⟨fun none value id => none id value, fun none id value => none value id⟩

/-- What is held once a value has been added under a new name: that value under that name, and under
every other name what was held before. -/
theorem Added.holds_iff {before after : NamedArena α} (added : Added before after id name value)
    (fresh : before.idOf? name = none) {slot : Nat} {asked : String} {held : α} :
    after.Holds slot asked held ↔
      if asked = name then slot = id ∧ held = value else before.Holds slot asked held := by
  rw [added.holds]
  by_cases here : slot = id
  · -- The slot that has been filled held nothing before.
    have nothing : ¬ before.Holds slot asked held := by
      intro holds
      have occupied := holds.get?
      rw [here, added.vacant] at occupied
      contradiction
    by_cases same : asked = name <;> simp [here, same]
    exact here ▸ nothing
  · -- The new name was held nowhere before.
    by_cases same : asked = name
    · simpa [here, same] using idOf?_eq_none.mp fresh slot held
    · simp [here, same]

/-- Adding sets the value of a name that has none, and changes no other. -/
theorem WellFormed.find?_add (formed : arena.WellFormed) (name : String) (value : α)
    (asked : String) : (arena.add name value).2.find? asked =
      if asked = name then some ((arena.find? name).getD value) else arena.find? asked := by
  cases live : arena.idOf? name with
  | some id =>
    -- The name is in use, so that nothing changes.
    rw [add_of_idOf? live]
    obtain ⟨held, holds⟩ := holds_of_idOf? live
    have found : arena.find? name = some held := formed.find?_eq_some.mpr ⟨id, holds⟩
    split
    · next same => rw [same, found, Option.getD_some]
    · rfl
  | none =>
    have added := formed.added_add live value
    have absent := formed.idOf?_eq_none_iff.mp live
    refine Option.ext fun got => ?_
    rw [added.formed.find?_eq_some, absent, Option.getD_none]
    simp only [added.holds_iff live]
    by_cases same : asked = name
    · simp [same, eq_comm]
    · simp [same, formed.find?_eq_some]

/-- Removing takes the value of one name away, and changes no other. -/
theorem WellFormed.find?_remove (formed : arena.WellFormed) (name asked : String) :
    (arena.remove name).2.find? asked = if asked = name then none else arena.find? asked := by
  -- The slot of the name is the one that is emptied.
  refine Option.ext fun got => ?_
  rw [(formed.remove name).find?_eq_some]
  simp only [formed.holds_remove]
  by_cases same : asked = name
  · simp [same]
  · simp [same, formed.find?_eq_some]

/-- Adding gives a name the slot that is answered, and changes no other. -/
theorem WellFormed.idOf?_add (formed : arena.WellFormed) (name : String) (value : α)
    (asked : String) : (arena.add name value).2.idOf? asked =
      if asked = name then some (arena.add name value).1 else arena.idOf? asked := by
  -- A name that is taken keeps its slot, and a new one gets the slot that is given.
  cases live : arena.idOf? name with
  | some id =>
    rw [add_of_idOf? live]
    split
    · next same => rw [same, live]
    · rfl
  | none =>
    have added := formed.added_add live value
    refine Option.ext fun slot => ?_
    rw [added.formed.idOf?_eq_some]
    simp only [added.holds_iff live]
    by_cases same : asked = name
    · simp [same, eq_comm]
    · simp [same, formed.idOf?_eq_some]

/-- Removing takes the slot of one name away, and changes no other. -/
theorem WellFormed.idOf?_remove (formed : arena.WellFormed) (name asked : String) :
    (arena.remove name).2.idOf? asked = if asked = name then none else arena.idOf? asked := by
  -- The slot of the name is the one that is emptied.
  refine Option.ext fun slot => ?_
  rw [(formed.remove name).idOf?_eq_some]
  simp only [formed.holds_remove]
  by_cases same : asked = name
  · simp [same]
  · simp [same, formed.idOf?_eq_some]

/-- A call keeps an arena well-formed. -/
theorem WellFormed.perform (formed : arena.WellFormed) (call : Call α) :
    (arena.perform call).WellFormed := by
  -- Adding a name that is taken changes nothing.
  cases call with
  | add name value =>
    cases live : arena.idOf? name with
    | some id => simpa [NamedArena.perform, add_of_idOf? live] using formed
    | none => exact (formed.added_add live value).formed
  | remove name => exact formed.remove name

/-- Calls keep an arena well-formed. -/
theorem WellFormed.performAll (formed : arena.WellFormed) (calls : List (Call α)) :
    (arena.performAll calls).WellFormed := by
  -- The induction is on the calls that are still to be made.
  induction calls generalizing arena with
  | nil => exact formed
  | cons call rest ih => exact ih (formed.perform call)

/-- After calls a name has the value that was first added under it since its last removal. -/
theorem find?_performAll (calls : List (Call α)) (name : String) :
    ((empty : NamedArena α).performAll calls).find? name = (addedSince name calls).head? := by
  -- The induction is on the calls, of which the latest decides.
  induction calls using List.reverseRecOn with
  | nil => rfl
  | append_singleton calls call ih =>
    have formed := (wellFormed_empty (α := α)).performAll calls
    rw [performAll_concat, addedSince_concat]
    cases call with
    | add other value =>
      rw [perform, Call.note, formed.find?_add, ih]
      by_cases same : other = name
      · -- The value is the first one only if there is none yet.
        subst same
        rw [if_pos rfl, if_pos rfl, ih]
        cases addedSince other calls <;> rfl
      · rw [if_neg (Ne.symm same), if_neg same]
    | remove other =>
      rw [perform, Call.note, formed.find?_remove, ih]
      by_cases same : other = name
      · rw [if_pos same, if_pos same.symm, List.head?_nil]
      · rw [if_neg (Ne.symm same), if_neg same]

/-- The names in use, in the order of their slots. -/
def names (arena : NamedArena α) : List String :=
  arena.slots.filterMap fun slot => slot.map Prod.fst

/-- A name is in use exactly if some slot holds a value under it. -/
theorem mem_names : name ∈ arena.names ↔ ∃ id value, arena.Holds id name value := by
  -- The names are those of the slots that are not empty.
  unfold names Holds
  rw [List.mem_filterMap]
  constructor
  · rintro ⟨slot, member, named⟩
    obtain ⟨id, found⟩ := List.mem_iff_getElem?.mp member
    obtain ⟨⟨held, value⟩, rfl, rfl⟩ := Option.map_eq_some_iff.mp named
    exact ⟨id, value, found⟩
  · rintro ⟨id, value, found⟩
    exact ⟨some (name, value), List.mem_of_getElem? found, rfl⟩

/-- There are as many values as names in use. -/
theorem size_eq_length_names (arena : NamedArena α) : arena.size = arena.names.length := by
  -- Each slot that is not empty has one name.
  unfold size names
  rw [List.length_filterMap_eq_countP]
  simp

/-- No name is in use twice. -/
theorem WellFormed.nodup_names (formed : arena.WellFormed) : arena.names.Nodup := by
  unfold NamedArena.names List.Nodup
  rw [List.pairwise_filterMap, List.pairwise_iff_getElem]
  intro i j first second before name named other others same
  -- One name would be held by two slots.
  obtain ⟨⟨held, value⟩, here, rfl⟩ := Option.map_eq_some_iff.mp named
  obtain ⟨⟨again, value'⟩, there, rfl⟩ := Option.map_eq_some_iff.mp others
  have left : arena.Holds i held value := by
    rw [Holds, List.getElem?_eq_getElem first, here]
  have right : arena.Holds j again value' := by
    rw [Holds, List.getElem?_eq_getElem second, there]
  have together : i = j := by
    have equal : held = again := same
    subst equal
    exact formed.unique left right
  omega

/-- The values are listed with the slots that hold them. -/
theorem mem_toList : (id, value) ∈ arena.toList ↔ ∃ name, arena.Holds id name value := by
  -- The slots that are not empty are listed with their numbers.
  unfold toList Holds
  rw [List.mem_filterMap]
  constructor
  · rintro ⟨⟨slot, place⟩, member, listed⟩
    obtain ⟨⟨name, held⟩, rfl, same⟩ := Option.map_eq_some_iff.mp listed
    obtain ⟨rfl, rfl⟩ := Prod.mk.inj same
    exact ⟨name, List.mem_zipIdx_iff_getElem?.mp member⟩
  · rintro ⟨name, found⟩
    exact ⟨(some (name, value), id), List.mem_zipIdx_iff_getElem?.mpr found, rfl⟩

/-- The slots of the values that are listed increase. -/
theorem pairwise_toList (arena : NamedArena α) :
    (arena.toList.map Prod.fst).Pairwise (· < ·) := by
  unfold toList
  rw [List.pairwise_map, List.pairwise_filterMap]
  -- The slots are numbered from the first to the last.
  have numbered : arena.slots.zipIdx.Pairwise fun one other => one.2 < other.2 := by
    rw [← List.pairwise_map (f := Prod.snd), List.zipIdx_map_snd]
    exact List.pairwise_lt_range'
  refine numbered.imp fun increasing pair listed other listed' => ?_
  obtain ⟨_, _, rfl⟩ := Option.map_eq_some_iff.mp listed
  obtain ⟨_, _, rfl⟩ := Option.map_eq_some_iff.mp listed'
  exact increasing

end AspectWeaving.NamedArena
