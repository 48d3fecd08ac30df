import AspectWeaving.Proofs.Annotations.Registered
import AspectWeaving.Proofs.Class.Ancestry

/-! What a class shows of its own decorations and of those that it has from its ancestors: a member
that a nearer class declares anew hides what is further up. -/

namespace AspectWeaving

variable {β γ : Type} {history : List (Decoration β)} {classes : ClassTable β} {id : ClassId}
  {location : Location}

namespace Location

/-- A location that is moved to a class is on it. -/
@[simp]
theorem owner_rebase (location : Location) (id : ClassId) : (location.rebase id).owner = id := by
  cases location <;> rfl

/-- A location is where it is moved to from its own class. -/
@[simp]
theorem rebase_owner (location : Location) : location.rebase location.owner = location := by
  cases location <;> rfl

/-- Only the last move counts. -/
@[simp]
theorem rebase_rebase (location : Location) (id other : ClassId) :
    (location.rebase id).rebase other = location.rebase other := by
  cases location <;> rfl

/-- Two locations are the same place on two classes whichever of them is moved. -/
theorem rebase_eq_iff {known : Location} :
    known.rebase location.owner = location ↔ known = location.rebase known.owner := by
  -- Both sides say that the places differ in their classes only.
  constructor
  · intro same
    rw [← same, rebase_rebase, rebase_owner]
  · intro same
    rw [same, rebase_rebase, rebase_owner]

end Location

/-- The classes of a lineage up to and including the nearest one that declares a member; all of them
if there is no member or no class declares it. -/
def upTo (member : Option String) : List (ClassId × ClassDescriptor β) → List ClassId
  | [] => []
  | pair :: rest =>
    if member.any pair.2.declares then [pair.1] else pair.1 :: upTo member rest

/-- Without the ancestors there is only the class itself. -/
theorem upTo_take_one (member : Option String) (pairs : List (ClassId × ClassDescriptor β)) :
    upTo member (pairs.take 1) = (pairs.map Prod.fst).take 1 := by
  -- One class alone is always reached.
  cases pairs with
  | nil => rfl
  | cons pair rest => simp [upTo]

/-- The classes up to the nearest one that declares a member are the first of a lineage. -/
theorem isPrefix_upTo (member : Option String) (pairs : List (ClassId × ClassDescriptor β)) :
    upTo member pairs <+: pairs.map Prod.fst := by
  -- The induction is on the lineage, which is cut off behind the first class that declares the
  -- member.
  induction pairs with
  | nil => exact List.prefix_refl _
  | cons pair rest ih =>
    rw [upTo, List.map_cons]
    split
    · exact List.prefix_append [pair.1] _
    · exact (List.prefix_cons_inj _).mpr ih

namespace Bundle

/-- Whether a location is hidden depends on its member only. -/
theorem isVisible_rebase (nearer : List String) :
    isVisible nearer (location.rebase id) = isVisible nearer location := by
  cases location <;> rfl

/-- A class in between hides what it declares. -/
theorem isVisible_append (nearer : List String) (descriptor : ClassDescriptor β) :
    isVisible (nearer ++ descriptor.memberNames) location =
      (isVisible nearer location && !location.member?.any descriptor.declares) := by
  -- What another class hides is what it declares; a place without a member is hidden by nothing.
  unfold isVisible
  cases location.member? with
  | none => rfl
  | some member =>
    have listed : descriptor.memberNames.contains member = descriptor.declares member := by
      rw [ClassDescriptor.memberNames, ClassDescriptor.declares, Bool.eq_iff_iff, Bool.or_eq_true,
        Dictionary.contains_eq_true, Dictionary.contains_eq_true, List.contains_iff_mem,
        List.mem_append]
    simp [← listed]

/-- The layer of a class with a descriptor. -/
def layerOf (decorations : Decorations β) (pair : ClassId × ClassDescriptor β) : BundleLayer β :=
  ⟨pair.1, pair.2.memberNames, decorations.layer pair.1⟩

/-- The bundle of a lineage. -/
def ofLineage (decorations : Decorations β) (pairs : List (ClassId × ClassDescriptor β)) :
    Bundle β := ⟨pairs.map (layerOf decorations)⟩

/-- What layers give where a location is not hidden is what the classes give up to the nearest one
that declares the location's member. -/
theorem flatMap_shadows {decorations : Decorations β} {give : List String × BundleLayer β → List γ}
    {given : ClassId → List γ}
    (gives : ∀ nearer pair, give (nearer, layerOf decorations pair) =
      if isVisible nearer location then given pair.1 else [])
    (pairs : List (ClassId × ClassDescriptor β)) :
    (shadows [] (pairs.map (layerOf decorations))).flatMap give =
      (upTo location.member? pairs).flatMap given := by
  -- The induction is on the classes, with what nearer ones declare.
  have general (nearer : List String) :
      (shadows nearer (pairs.map (layerOf decorations))).flatMap give =
        if isVisible nearer location then (upTo location.member? pairs).flatMap given else [] := by
    induction pairs generalizing nearer with
    | nil => simp [shadows, upTo]
    | cons pair rest ih =>
      have later := ih (nearer ++ pair.2.memberNames)
      rw [isVisible_append] at later
      rw [List.map_cons, shadows, List.flatMap_cons, gives,
        show (layerOf decorations pair).declared = pair.2.memberNames from rfl, later]
      by_cases visible : isVisible nearer location
      · by_cases declares : location.member?.any pair.2.declares <;>
          simp [visible, declares, upTo]
      · simp [visible]
  rw [general, if_pos]
  cases location <;> rfl

/-- What a bundle reports of a history of registrations, for a class in a table. -/
structure Reports (bundle : Bundle β) (history : List (Decoration β)) (classes : ClassTable β)
    (id : ClassId) : Prop where
  -- Child first, each class gives what was registered at the same place on it.
  allAt : ∀ location, bundle.allAt location true =
    (upTo location.member? (classes.lineage id)).flatMap fun owner =>
      registeredAt history (location.rebase owner)
  own : ∀ location, bundle.allAt location false =
    ((classes.ancestry id).take 1).flatMap fun owner =>
      registeredAt history (location.rebase owner)
  mem : ∀ decoration,
    decoration ∈ bundle.all ↔ decoration ∈ bundle.allAt decoration.target.location true
  -- Every registration that is not hidden is there once, if the walk up comes to an end at all.
  once : classes.Ends id → bundle.all.Perm (history.filter fun decoration =>
    decoration.target.location.owner ∈
      upTo decoration.target.location.member? (classes.lineage id))
  restricted : ∀ location, (bundle.all.filter fun decoration =>
      decoration.target.location.rebase location.owner = location) = bundle.allAt location true
  -- The four kinds share all decorations out, each in the order in which they are.
  kinds : ∀ kind reference, bundle.ofKind kind reference = bundle.all.filter fun decoration =>
    decoration.target.kind = kind ∧ ∀ wanted ∈ reference, decoration.reference = wanted
  shared : (ElementKind.all.flatMap fun kind => bundle.ofKind kind none).Perm bundle.all

/-- The bundle without ancestors is that of the first class. -/
theorem allAt_false (decorations : Decorations β) (pairs : List (ClassId × ClassDescriptor β))
    (location : Location) : (ofLineage decorations pairs).allAt location false =
      (ofLineage decorations (pairs.take 1)).allAt location true := by
  -- Without inheritance a bundle is that of the class itself.
  simp only [allAt, ofLineage, List.map_take]
  rfl

section Placed

variable (placed : ∀ decoration ∈ history, decoration.Placed)
  (pairs : List (ClassId × ClassDescriptor β))
include placed

/-- What is shown at a location is what the classes have there that is not hidden. -/
theorem allAt_eq (location : Location) :
    (ofLineage (.ofHistory history) pairs).allAt location true =
      (upTo location.member? pairs).flatMap fun owner =>
        registeredAt history (location.rebase owner) := by
  -- Each layer gives its part of the list, unless a nearer class hides the member.
  refine flatMap_shadows (fun nearer pair => ?_) pairs
  have kept := Decorations.keptAt_eq placed (location.owner_rebase pair.1)
  show (if isVisible nearer (location.rebase pair.1) then
    (Decorations.ofHistory history).keptAt pair.1 (location.rebase pair.1) else []) = _
  rw [isVisible_rebase, kept]

/-- Of all that is shown, what is at the same place on any class is what is shown there. -/
theorem filter_all_rebase (location : Location) :
    ((ofLineage (.ofHistory history) pairs).all.filter fun decoration =>
        decoration.target.location.rebase location.owner = location) =
      (ofLineage (.ofHistory history) pairs).allAt location true := by
  rw [allAt_eq placed, all, List.filter_flatMap]
  refine flatMap_shadows (fun nearer pair => ?_) pairs
  -- On one class, only one location is the one that is asked for.
  have told : ∀ entry ∈ ((Decorations.ofHistory history).layer pair.1).entries,
      ∀ decoration ∈ entry.2,
        decide (decoration.target.location.rebase location.owner = location) = true ↔
          entry.1 = location.rebase pair.1 := by
    intro entry listed decoration member
    obtain ⟨there, own⟩ := Decorations.of_mem_layer placed listed member
    rw [decide_eq_true_eq, Location.rebase_eq_iff, there, own]
  have kept := Decorations.keptAt_eq placed (location.owner_rebase pair.1)
  refine (Dictionary.filter_flatMap_entries (Dictionary.nodup _) (isVisible nearer) told).trans ?_
  rw [isVisible_rebase, ← kept]
  rfl

/-- Of all that is shown, what is at a location itself is all that was registered there, if the
location is not hidden. -/
theorem filter_all (nodup : (pairs.map Prod.fst).Nodup) (location : Location) :
    ((ofLineage (.ofHistory history) pairs).all.filter fun decoration =>
        decoration.target.location = location) =
      if location.owner ∈ upTo location.member? pairs then registeredAt history location
      else [] := by
  -- What is at the location is among what is at the same place on any class.
  have narrower : ((ofLineage (.ofHistory history) pairs).all.filter fun decoration =>
        decoration.target.location = location) =
      ((ofLineage (.ofHistory history) pairs).allAt location true).filter fun decoration =>
        decoration.target.location = location := by
    rw [← filter_all_rebase placed, List.filter_filter]
    refine List.filter_congr fun decoration _ => ?_
    by_cases there : decoration.target.location = location <;> simp [there]
  rw [narrower, allAt_eq placed, List.filter_flatMap,
    ← flatMap_ite_eq ((isPrefix_upTo _ pairs).sublist.nodup nodup)]
  -- Each class gives what is at one location, which is the one that is asked for on its own class.
  refine List.flatMap_congr fun owner _ => ?_
  rw [registeredAt, List.filter_filter]
  by_cases own : owner = location.owner
  · subst own
    rw [if_pos rfl, Location.rebase_owner, registeredAt]
    simp
  · rw [if_neg own]
    refine List.filter_eq_nil_iff.mpr fun decoration _ both => own ?_
    simp only [Bool.and_eq_true, decide_eq_true_eq] at both
    rw [← both.1, both.2, Location.owner_rebase]

/-- All that is shown is what was registered at locations that are not hidden. -/
theorem all_perm (nodup : (pairs.map Prod.fst).Nodup) :
    (ofLineage (.ofHistory history) pairs).all.Perm (history.filter fun decoration =>
      decoration.target.location.owner ∈ upTo decoration.target.location.member? pairs) := by
  -- Two lists are permutations of each other if they have the same decorations at each place.
  refine perm_of_filter_key_eq (fun decoration => decoration.target.location) fun location => ?_
  rw [filter_all placed pairs nodup, List.filter_filter, registeredAt]
  split
  · next shown =>
    refine List.filter_congr fun decoration _ => ?_
    by_cases there : decoration.target.location = location <;> simp [there, shown]
  -- At a place that is hidden there are none on either side.
  · next hidden =>
    refine (List.filter_eq_nil_iff.mpr fun decoration _ both => hidden ?_).symm
    simp only [Bool.and_eq_true, decide_eq_true_eq] at both
    exact both.1 ▸ both.2

end Placed

/-- Asking for a kind, and maybe for an annotation, leaves the others out. -/
theorem ofKind_eq (bundle : Bundle β) (kind : ElementKind) (reference : Option AnnotationRef) :
    bundle.ofKind kind reference = bundle.all.filter fun decoration =>
      decoration.target.kind = kind ∧ ∀ wanted ∈ reference, decoration.reference = wanted := by
  -- Both filters ask for the kind, and for the reference if there is one.
  refine List.filter_congr fun decoration _ => ?_
  rw [Bool.eq_iff_iff]
  cases reference <;> simp

/-- The kinds of elements share out what is shown. -/
theorem flatMap_ofKind_perm (bundle : Bundle β) :
    (ElementKind.all.flatMap fun kind => bundle.ofKind kind none).Perm bundle.all := by
  -- Each decoration has one kind, and each kind is listed once.
  refine perm_of_filter_key_eq (fun decoration => decoration.target.kind) fun kind => ?_
  have nodup : ElementKind.all.Nodup := by decide
  have one : (bundle.all.filter fun decoration => decoration.target.kind = kind) =
      if kind ∈ ElementKind.all then
        bundle.all.filter fun decoration => decoration.target.kind = kind
      else [] := by
    rw [if_pos (by cases kind <;> decide)]
  rw [List.filter_flatMap, one, ← flatMap_ite_eq nodup]
  refine List.flatMap_congr fun asked _ => ?_
  rw [ofKind_eq, List.filter_filter]
  by_cases same : asked = kind
  · simp [same]
  · rw [if_neg same]
    refine List.filter_eq_nil_iff.mpr fun decoration _ both => same ?_
    simp only [Bool.and_eq_true, decide_eq_true_eq] at both
    exact both.2.1.symm.trans both.1

/-- Whatever was registered on targets that have been resolved, a bundle reports it. -/
theorem reports_of_placed (placed : ∀ decoration ∈ history, decoration.Placed)
    (classes : ClassTable β) (id : ClassId) :
    Reports (ofClass (.ofHistory history) classes id) history classes id where
  -- What is reported is read off the layers of the lineage, from the class up.
  allAt := allAt_eq placed (classes.lineage id)
  own location := by
    rw [← ClassTable.map_fst_lineage, ← upTo_take_one location.member?, ← allAt_eq placed]
    exact allAt_false _ _ location
  restricted := filter_all_rebase placed (classes.lineage id)
  mem decoration := by
    have here := filter_all_rebase placed (classes.lineage id) decoration.target.location
    show decoration ∈ (ofLineage (.ofHistory history) (classes.lineage id)).all ↔
      decoration ∈ (ofLineage (.ofHistory history) (classes.lineage id)).allAt _ true
    rw [← here, List.mem_filter, Location.rebase_owner]
    simp only [decide_true, and_true]
  once ends := by
    refine all_perm placed (classes.lineage id) ?_
    rw [ClassTable.map_fst_lineage]
    exact ends.nodup
  kinds := ofKind_eq _
  shared := flatMap_ofKind_perm _

/-- A class that declares a method anew shows what is registered on its own method only. -/
theorem reports_of_placed_redeclared :
    let run := Dictionary.ofList [("run", none)]
    let base := { ClassTable.named "Base" with methods := run }
    let child := { ClassTable.named "Child" with parent := some ⟨0⟩, methods := run }
    let calls := [ReflectionCall.registerClass base, .registerClass child]
    let classes := (calls.foldl Reflection.perform .empty).classes
    let top := Target.root ⟨⟨0⟩, "Base", "Base"⟩ (.ofClass ⟨0⟩)
    let whole := Target.subclass ⟨⟨1⟩, "Child", "Child"⟩ (.ofClass ⟨1⟩) top
    let hidden := Target.method ⟨⟨0⟩, "Base", "Base"⟩ (.ofMethod ⟨0⟩ "run") "run" top top
    let shown := Target.method ⟨⟨1⟩, "Child", "Child"⟩ (.ofMethod ⟨1⟩ "run") "run" whole whole
    let mark (target : Target) : Decoration Unit := ⟨⟨⟨"t", "Mark"⟩, .method, none⟩, target, []⟩
    let history := [mark hidden, mark shown]
    (∀ decoration ∈ history, decoration.Placed) ∧
      (ofClass (.ofHistory history) classes ⟨1⟩).all = [mark shown] ∧
      Reports (ofClass (.ofHistory history) classes ⟨1⟩) history classes ⟨1⟩ := by
  -- Both decorations are at places that the two classes resolve to.
  intro run base child calls classes top whole hidden shown mark history
  have placed : ∀ decoration ∈ history, decoration.Placed := by
    intro decoration member
    rcases List.mem_pair.mp member with rfl | rfl
    · exact ⟨calls, .ofMember ⟨0⟩ "run", by decide +kernel⟩
    · exact ⟨calls, .ofMember ⟨1⟩ "run", by decide +kernel⟩
  have lineage : classes.lineage ⟨1⟩ = [(⟨1⟩, ⟨child, "Child"⟩), (⟨0⟩, ⟨base, "Base"⟩)] := rfl
  have seen : (ofClass (.ofHistory history) classes ⟨1⟩).all = [mark shown] := by
    show (ofLineage (.ofHistory history) (classes.lineage ⟨1⟩)).all = _
    rw [lineage]
    rfl
  exact ⟨placed, seen, reports_of_placed placed classes ⟨1⟩⟩

end Bundle

end AspectWeaving
