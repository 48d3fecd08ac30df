import AspectWeaving.Advice.Index
import AspectWeaving.Proofs.Dictionary
import Mathlib.Data.List.Nodup

/-! What the index of advices lists, under a key and for an aspect. -/

namespace AspectWeaving

variable {β : Type}

/-- An advice is looked for under a key of its phase and scope, with an annotation that it asks for
or without any if it asks for none. -/
theorem Advice.mem_keys {advice : Advice β} {key : AdviceKey} :
    key ∈ advice.keys ↔ key.phase = advice.phase ∧ key.scope = advice.pointcut.expression.scope ∧
      match key.required with
      | none => advice.pointcut.expression.annotations = []
      | some reference => reference ∈ advice.pointcut.expression.annotations := by
  obtain ⟨phase, scope, required⟩ := key
  -- Without annotations there is one key; else there is one for each.
  cases asked : advice.pointcut.expression.annotations with
  | nil => cases required <;> simp [Advice.keys, asked, and_comm, eq_comm]
  | cons first others =>
    cases required with
    | none => simp [Advice.keys, asked]
    | some reference =>
      simp [Advice.keys, asked]
      grind

/-- No advice is listed twice under one key. -/
theorem Advice.nodup_keys (advice : Advice β) : advice.keys.Nodup := by
  unfold Advice.keys
  refine List.Nodup.map (fun first second same => by simpa using same) ?_
  -- The keys differ in their annotations only, and no annotation is asked for twice.
  split
  · simp
  · exact advice.pointcut.expression.nodup.map fun _ _ => Option.some.inj

namespace AdviceIndex

/-- The advices listed under a key. -/
def under (index : AdviceIndex β) (key : AdviceKey) : List (Advice β) :=
  (index.byKey.get? key).getD []

/-- The index without advices lists none. -/
@[simp]
theorem under_empty (key : AdviceKey) : (empty : AdviceIndex β).under key = [] := rfl

/-- The index without advices has none of any aspect. -/
@[simp]
theorem ofAspect_empty (id : String) : (empty : AdviceIndex β).ofAspect id = [] := rfl

/-- Registering lists an advice under its keys. -/
theorem under_register (index : AdviceIndex β) (advice : Advice β) (key : AdviceKey) :
    (index.register advice).under key =
      index.under key ++ if key ∈ advice.keys then [advice] else [] := by
  have listed {keys : List AdviceKey} (nodup : keys.Nodup)
      (known : Dictionary AdviceKey (List (Advice β))) :
      ((keys.foldl (fun listed key => listed.update key fun known => known.getD [] ++ [advice])
        known).get? key).getD [] =
        (known.get? key).getD [] ++ if key ∈ keys then [advice] else [] := by
    -- The induction is on the keys that are still to be filled.
    induction keys generalizing known with
    | nil => simp
    | cons first rest ih =>
      obtain ⟨absent, nodup⟩ := List.nodup_cons.mp nodup
      rw [List.foldl_cons, ih nodup, Dictionary.get?_update]
      -- The key that is filled now does not come again.
      by_cases same : key = first
      · subst same
        simp [absent]
      · simp [same]
  exact listed advice.nodup_keys index.byKey

/-- Registering lists an advice for its aspect. -/
theorem ofAspect_register (index : AdviceIndex β) (advice : Advice β) (id : String) :
    (index.register advice).ofAspect id =
      index.ofAspect id ++ if id = advice.aspectId then [advice] else [] := by
  -- Only the list of the aspect that the advice belongs to grows.
  simp only [register, ofAspect, Dictionary.get?_update]
  split
  · next same => simp [same]
  · simp

/-- Registering makes an aspect known. -/
theorem contains_register (index : AdviceIndex β) (advice : Advice β) (id : String) :
    (index.register advice).byAspect.contains id =
      (decide (id = advice.aspectId) || index.byAspect.contains id) := by
  -- The one list that can be new is that of the aspect of the advice.
  simp only [register, Dictionary.contains, Dictionary.get?_update]
  split <;> simp_all

/-- Registering lists advices under their keys. -/
theorem under_foldl_register (index : AdviceIndex β) (advices : List (Advice β))
    (key : AdviceKey) :
    (advices.foldl register index).under key =
      index.under key ++ advices.filter fun advice => key ∈ advice.keys := by
  -- The induction is on the advices that are still to be registered.
  induction advices generalizing index with
  | nil => simp
  | cons advice rest ih =>
    rw [List.foldl_cons, ih, under_register, List.filter_cons]
    split <;> simp_all

/-- Registering lists advices for their aspects. -/
theorem ofAspect_foldl_register (index : AdviceIndex β) (advices : List (Advice β))
    (id : String) :
    (advices.foldl register index).ofAspect id =
      index.ofAspect id ++ advices.filter fun advice => id = advice.aspectId := by
  -- The induction is on the advices that are still to be registered.
  induction advices generalizing index with
  | nil => simp
  | cons advice rest ih =>
    rw [List.foldl_cons, ih, ofAspect_register, List.filter_cons]
    split <;> simp_all

/-- Only the aspects of registered advices become known. -/
theorem contains_foldl_register (index : AdviceIndex β) (advices : List (Advice β))
    (id : String) :
    (advices.foldl register index).byAspect.contains id = true ↔
      index.byAspect.contains id = true ∨ ∃ advice ∈ advices, id = advice.aspectId := by
  -- The induction is on the advices that are still to be registered.
  induction advices generalizing index with
  | nil => simp
  | cons advice rest ih =>
    rw [List.foldl_cons, ih, contains_register]
    simp only [Bool.or_eq_true, decide_eq_true_eq, List.mem_cons, exists_eq_or_imp]
    rw [or_comm (a := id = advice.aspectId), or_assoc]

/-- An aspect that is not known has no advices. -/
theorem ofAspect_of_contains {index : AdviceIndex β} {id : String}
    (unknown : index.byAspect.contains id = false) : index.ofAspect id = [] := by
  -- An aspect that is not known has no list, which is read as the empty one.
  simp_all [Dictionary.contains, ofAspect]

/-- Dropping a known aspect keeps what is listed for others. -/
theorem under_unregister {index : AdviceIndex β} {id : String}
    (known : index.byAspect.contains id = true) (key : AdviceKey) :
    (index.unregister id).under key =
      (index.under key).filter fun advice => advice.aspectId ≠ id := by
  simp only [unregister, if_pos known, under, Dictionary.get?_filterValues,
    Dictionary.get?_mapValues]
  -- A list that has become empty is removed, which shows no advices either.
  cases index.byKey.get? key with
  | none => simp
  | some listed =>
    simp only [Option.map_some, Option.filter_some, Option.getD_some]
    split
    · rfl
    · next empty => simpa using empty

/-- Dropping an aspect leaves it without advices. -/
theorem ofAspect_unregister (index : AdviceIndex β) (id other : String) :
    (index.unregister id).ofAspect other = if other = id then [] else index.ofAspect other := by
  unfold unregister
  -- An unknown aspect had no advices in the first place.
  by_cases known : index.byAspect.contains id
  · simp only [if_pos known, ofAspect, Dictionary.get?_erase]
    split <;> simp
  · rw [if_neg known]
    split
    · next same =>
      subst same
      exact ofAspect_of_contains (by simpa using known)
    · rfl

/-- Dropping an aspect makes it unknown. -/
theorem contains_unregister (index : AdviceIndex β) (id other : String) :
    (index.unregister id).byAspect.contains other =
      (decide (other ≠ id) && index.byAspect.contains other) := by
  -- An aspect that is not known is left out without any change.
  unfold unregister
  by_cases known : index.byAspect.contains id
  · rw [if_pos known]
    simp only [Dictionary.contains, Dictionary.get?_erase]
    split <;> simp_all
  · rw [if_neg known]
    by_cases same : other = id <;> simp_all

end AdviceIndex

end AspectWeaving
