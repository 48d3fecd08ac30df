import AspectWeaving.Annotations.Decorations
import AspectWeaving.Proofs.Element.Calls
import Mathlib.Data.List.Induction

/-! Decorations are kept by class and by location, in the order in which they were registered. -/

namespace AspectWeaving

variable {β : Type} {history : List (Decoration β)} {id : ClassId} {location : Location}

/-- A decoration is on a target that some sequence of calls has resolved. -/
def Decoration.Placed (decoration : Decoration β) : Prop :=
  ∃ (calls : List (ReflectionCall β)) (element : Element),
    ((calls.foldl Reflection.perform .empty).resolve element).1 = .ok decoration.target

/-- The location of a resolved target is on the target's class. -/
theorem Decoration.Placed.owner_eq {decoration : Decoration β} (placed : decoration.Placed) :
    decoration.target.location.owner = decoration.target.owner.id := by
  -- What calls have led to remembers each element at its place and with its owner.
  obtain ⟨calls, element, resolved⟩ := placed
  obtain ⟨settled, looked⟩ := (Reflection.settled_of_calls calls).resolve element
  obtain ⟨reference, _, found⟩ := looked resolved
  exact (settled.elements.sited found).trans (settled.elements.fits found).owner.symm

/-- The decorations of a history that were registered at a location, in their order. -/
def registeredAt (history : List (Decoration β)) (location : Location) : List (Decoration β) :=
  history.filter fun decoration => decoration.target.location = location

namespace Decorations

/-- What registering decorations one after the other keeps of them. -/
def ofHistory (history : List (Decoration β)) : Decorations β := history.foldl register empty

/-- The decorations of one class by location. -/
def layer (decorations : Decorations β) (id : ClassId) : DecorationLayer β :=
  (decorations.byClass.get? id).getD Dictionary.empty

/-- The decorations at one location of a class. -/
def keptAt (decorations : Decorations β) (id : ClassId) (location : Location) :
    List (Decoration β) :=
  ((decorations.layer id).get? location).getD []

/-- Registering puts a decoration behind the earlier ones of its class and location. -/
theorem keptAt_register (decorations : Decorations β) (decoration : Decoration β) :
    (decorations.register decoration).keptAt id location = decorations.keptAt id location ++
      [decoration].filter fun added =>
        added.target.owner.id = id ∧ added.target.location = location := by
  -- A decoration is kept in the layer of its owner, in the list of its place.
  simp only [keptAt, layer, register, Dictionary.get?_update]
  by_cases here : id = decoration.target.owner.id
  · subst here
    simp only [if_true, Option.getD_some, Dictionary.get?_update]
    by_cases there : location = decoration.target.location
    · simp [there]
    · simp [there, Ne.symm there]
  · simp [here, Ne.symm here]

/-- At a location of a class are the decorations registered there, in their order. -/
theorem keptAt_ofHistory : (ofHistory history).keptAt id location =
    history.filter fun decoration =>
      decoration.target.owner.id = id ∧ decoration.target.location = location := by
  -- The induction is on the last decoration registered.
  induction history using List.reverseRecOn with
  | nil => rfl
  | append_singleton earlier last ih =>
    have step : ofHistory (earlier ++ [last]) = (ofHistory earlier).register last := by
      simp [ofHistory]
    rw [step, keptAt_register, ih, List.filter_append]

variable (placed : ∀ decoration ∈ history, decoration.Placed)
include placed

/-- At a location of its own class are all decorations registered at the location. -/
theorem keptAt_eq (own : location.owner = id) :
    (ofHistory history).keptAt id location = registeredAt history location := by
  rw [keptAt_ofHistory]
  refine List.filter_congr fun decoration member => ?_
  have owner := (placed decoration member).owner_eq
  -- The class of a target is that of its location.
  by_cases there : decoration.target.location = location
  · simp [there, ← owner, own]
  · simp [there]

/-- What is kept under a location of a class is at the location, and the location on the class. -/
theorem of_mem_layer {entry : Location × List (Decoration β)}
    (kept : entry ∈ ((ofHistory history).layer id).entries) {decoration : Decoration β}
    (member : decoration ∈ entry.2) :
    decoration.target.location = entry.1 ∧ entry.1.owner = id := by
  -- The list of the place holds the decorations of the history that are to be there.
  have found : (ofHistory history).keptAt id entry.1 = entry.2 := by
    rw [keptAt, Dictionary.get?_eq_some.mpr kept, Option.getD_some]
  rw [← found, keptAt_ofHistory, List.mem_filter, decide_eq_true_eq] at member
  obtain ⟨registered, owner, there⟩ := member
  exact ⟨there, by rw [← there, (placed decoration registered).owner_eq, owner]⟩

end Decorations

end AspectWeaving
