import AspectWeaving.Proofs.Element.Forest
import AspectWeaving.Proofs.Element.Resolution
import AspectWeaving.Reflection

/-! Sequences of calls that register, discard, resolve and decorate: whatever the classes and their
members are named, every target is remembered where it belongs. -/

namespace AspectWeaving

variable {β : Type} {classes : ClassTable β} {id : ClassId}

/-- A call that may change what is known of classes and their elements. -/
inductive ReflectionCall (β : Type) where
  | registerClass (definition : ClassDefinition β)
  | discardClass (id : ClassId)
  | declare (declared : AnnotationDecl β)
  | resolve (element : Element)
  | locateClass (id : ClassId)
  | ensure (id : ClassId) (kind : ElementKind) (member : Option String) (index : Option Nat)
  | forgetTargets (id : ClassId)
  | forgetLocations (id : ClassId)
  | record (decoration : Decoration β)

/-- Targets and locations are where they belong: targets on live classes, under their class and
their reference, and every location on the class that it was made for. -/
structure ElementMemo.Settled (memo : ElementMemo) (classes : ClassTable β) : Prop where
  fits : memo.Fits classes
  planted : memo.locations.Planted
  sited : ∀ ⦃id reference target⦄, memo.lookup? id reference = some target →
    target.location.owner = id

/-- Resolving leaves targets and locations where they belong. -/
theorem Element.law_settled : Resolving.Law classes (fun id location => location.owner = id)
    (ElementMemo.Settled · classes) where
  ensure settled made :=
    have ensured := settled.planted.ensure made
    ⟨ensured.1, settled.fits, ensured.2, settled.sited⟩
  remember {vacant memo id reference target} _ _ settled isAt _ sited := by
    refine ⟨settled.fits.remember isAt, settled.planted, fun asked wanted found looked => ?_⟩
    rw [ElementMemo.lookup?_remember] at looked
    -- What has just been remembered is at its place, and the rest is as before.
    split at looked
    · next here =>
      obtain rfl := Option.some.inj looked
      exact sited.trans here.1.symm
    · exact settled.sited looked

namespace ElementMemo

variable {memo : ElementMemo}

/-- Forgetting the targets of a class forgets no others. -/
theorem lookup?_forgetTargets_eq_some {asked : ClassId} {reference : String} {target : Target} :
    (memo.forgetTargets id).lookup? asked reference = some target ↔
      asked ≠ id ∧ memo.lookup? asked reference = some target := by
  -- A class that is forgotten has no targets left.
  rw [lookup?_forgetTargets]
  split <;> simp_all

/-- What is left when targets are forgotten is where it belongs. -/
theorem Settled.forgetTargets (settled : memo.Settled classes) (id : ClassId) :
    (memo.forgetTargets id).Settled classes where
  -- Fewer targets are remembered, and places stay.
  fits _ _ _ found := settled.fits (lookup?_forgetTargets_eq_some.mp found).2
  planted := settled.planted
  sited _ _ _ found := settled.sited (lookup?_forgetTargets_eq_some.mp found).2

/-- Targets are looked up without the locations, which may be others. -/
theorem Settled.relocate (settled : memo.Settled classes) {locations : LocationForest}
    (planted : locations.Planted) : { memo with locations }.Settled classes :=
  -- What is remembered of targets does not depend on the places.
  ⟨settled.fits, planted, settled.sited⟩

end ElementMemo

namespace Reflection

variable {reflection : Reflection β}

/-- What is known after a call; decorating an element is resolving it and recording the result. -/
def perform (reflection : Reflection β) : ReflectionCall β → Reflection β
  | .registerClass definition => (reflection.registerClass definition).2
  | .discardClass id => reflection.discardClass id
  | .declare declared => (reflection.declare declared).2
  | .resolve element => (reflection.resolve element).2
  | .locateClass id => (reflection.locateClass id).2
  | .ensure id kind member index =>
    match reflection.elements.locations.ensure reflection.classes id kind member index with
    | .ok (_, locations) => { reflection with elements := { reflection.elements with locations } }
    | .error _ => reflection
  | .forgetTargets id => { reflection with elements := reflection.elements.forgetTargets id }
  | .forgetLocations id => { reflection with elements := reflection.elements.forgetLocations id }
  | .record decoration => reflection.record decoration

/-- The classes are kept under their references, and targets and locations where they belong. -/
structure Settled (reflection : Reflection β) : Prop where
  formed : reflection.classes.WellFormed
  elements : reflection.elements.Settled reflection.classes

/-- Without classes everything is where it belongs. -/
theorem settled_empty : (empty : Reflection β).Settled where
  -- There are no classes, and nothing is remembered.
  formed := ClassTable.wellFormed_empty
  elements :=
    ⟨ElementMemo.fits_empty, LocationForest.planted_empty, fun _ _ _ found => by contradiction⟩

/-- A class that is registered leaves everything where it belongs, also if it is merged with one of
its reference. -/
theorem Settled.registerClass (settled : reflection.Settled) (definition : ClassDefinition β) :
    (reflection.registerClass definition).2.Settled := by
  -- The classes that targets belong to stay as they are when one is added.
  unfold Reflection.registerClass
  split
  · next id classes registered =>
    obtain ⟨fits, planted, sited⟩ := settled.elements
    refine ⟨settled.formed.register registered, fun asked reference target found => ?_, planted,
      sited⟩
    obtain ⟨owner, named, descriptor, live, same⟩ := fits found
    exact ⟨owner, named, descriptor, settled.formed.get?_register_of_get? registered live, same⟩
  · exact settled

/-- A class that is discarded takes its targets and locations with it. -/
theorem Settled.discardClass (settled : reflection.Settled) (id : ClassId) :
    (reflection.discardClass id).Settled := by
  -- What is remembered of the class goes with it, and the other classes stay.
  have left := settled.elements.forgetTargets id
  refine ⟨settled.formed.discard id, fun asked reference target found => ?_,
    left.planted.forget id, left.sited⟩
  obtain ⟨owner, named, descriptor, live, same⟩ := left.fits found
  have different := (ElementMemo.lookup?_forgetTargets_eq_some.mp found).1
  have kept := settled.formed.get?_discard_of_ne id different
  exact ⟨owner, named, descriptor, kept.trans live, same⟩

/-- The target of an element is remembered under the element's reference. -/
theorem Settled.resolve (settled : reflection.Settled) (element : Element) :
    (reflection.resolve element).2.Settled ∧
      ∀ {target}, (reflection.resolve element).1 = .ok target →
        ∃ reference, element.KnownBy reflection.classes reference ∧
          (reflection.resolve element).2.elements.lookup? element.owner reference =
            some target := by
  -- Resolving keeps to the law, and remembers what it gives.
  unfold Reflection.resolve
  rcases ran : (element.resolve reflection.classes).run.run reflection.elements with
    ⟨result, elements⟩
  obtain ⟨kept, looked⟩ := Element.keeps_resolve Element.law_settled element settled.elements ran
  exact ⟨⟨settled.formed, kept⟩, fun same => looked _ same⟩

/-- Every call leaves everything where it belongs. -/
theorem Settled.perform (settled : reflection.Settled) (call : ReflectionCall β) :
    (reflection.perform call).Settled := by
  -- Each call has its own lemma, or leaves targets and places alone.
  cases call with
  | registerClass definition => exact settled.registerClass definition
  | discardClass id => exact settled.discardClass id
  | declare declared =>
    show (reflection.declare declared).2.Settled
    unfold Reflection.declare
    split
    · exact ⟨settled.formed, settled.elements⟩
    · exact settled
  | resolve element => exact (settled.resolve element).1
  | locateClass id =>
    show (reflection.locateClass id).2.Settled
    unfold Reflection.locateClass
    split
    · next made =>
      have planted := settled.elements.planted.ofClass made
      exact ⟨settled.formed, settled.elements.relocate planted⟩
    · exact settled
  | ensure id kind member index =>
    unfold Reflection.perform
    dsimp only
    split
    · next made =>
      have planted := (settled.elements.planted.ensure made).2
      exact ⟨settled.formed, settled.elements.relocate planted⟩
    · exact settled
  | forgetTargets id => exact ⟨settled.formed, settled.elements.forgetTargets id⟩
  | forgetLocations id =>
    exact ⟨settled.formed, settled.elements.relocate (settled.elements.planted.forget id)⟩
  | record decoration => exact ⟨settled.formed, settled.elements⟩

/-- Whatever is called, everything is where it belongs. -/
theorem settled_of_calls (calls : List (ReflectionCall β)) :
    (calls.foldl Reflection.perform empty).Settled :=
  -- Each call keeps what is remembered in order.
  List.foldlRecOn (motive := Settled) calls Reflection.perform settled_empty
    fun _ settled call _ => settled.perform call

end Reflection

end AspectWeaving
