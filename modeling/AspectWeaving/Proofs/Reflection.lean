import AspectWeaving.Proofs.Class.Woven
import AspectWeaving.Reflection

/-! Steps on what a weaver knows of classes, and what they leave alone for classes in use. -/

namespace AspectWeaving

variable {β : Type}

/-- A class name that keeps references apart: it holds neither a number sign nor a bracket that
could close one. -/
def ClassTable.CleanName (name : String) : Prop :=
  Unnumbered name ∧ ']' ∉ name.toList

instance (name : String) : Decidable (ClassTable.CleanName name) :=
  inferInstanceAs (Decidable (_ ∧ _))

/-- Live classes have clean names, counted references of their own, and a way to a root. -/
structure ClassTable.Ordered (table : ClassTable β) : Prop where
  formed : table.WellFormed
  counted : table.Counted
  closed : ∀ {id descriptor}, table.get? id = some descriptor → ']' ∉ descriptor.name.toList
  rooted : table.Rooted

namespace ClassTable.Ordered

variable {table after : ClassTable β} {id : ClassId}

/-- The table without classes is in order. -/
theorem empty : (ClassTable.empty : ClassTable β).Ordered where
  -- There are no classes.
  formed := wellFormed_empty
  counted := Reached.empty.counted
  closed found := absurd (wellFormed_empty.get?_eq_some.mp found) NamedArena.not_holds_empty
  rooted := rooted_empty

/-- No live class has a closing bracket in its reference. -/
theorem reference_closed (ordered : table.Ordered) {descriptor : ClassDescriptor β}
    (live : table.get? id = some descriptor) : ']' ∉ descriptor.reference.toList := by
  -- The reference is the base name, maybe with a number behind it.
  obtain ⟨count, _, given⟩ := ordered.counted.counted live
  have clean : ']' ∉ (baseName descriptor.name).toList := by
    unfold baseName
    split
    · decide
    · exact ordered.closed live
  rw [given]
  unfold referenceOf
  split
  · exact clean
  · -- Neither the number sign nor a digit is a bracket.
    have digits := Text.notMem_toString (c := ']') (by decide) count
    simp only [String.toList_append, List.mem_append, not_or]
    exact ⟨⟨clean, by decide⟩, digits⟩

/-- Under a clean name, registering creates a class. -/
theorem creates (ordered : table.Ordered) {definition : ClassDefinition β}
    (clean : CleanName definition.name) (registered : table.register definition = .ok (id, after)) :
    Creates table after id definition :=
  -- A clean name leads to a reference that is free.
  ordered.formed.creates registered
    (ordered.counted.nextReference_free ordered.formed clean.1)

/-- Registering a clean name keeps a table in order. -/
theorem register (ordered : table.Ordered) {definition : ClassDefinition β}
    (clean : CleanName definition.name) (registered : table.register definition = .ok (id, after)) :
    after.Ordered := by
  have created := ordered.creates clean registered
  refine ⟨ordered.formed.register registered,
    ordered.counted.register ordered.formed clean.1 registered, fun {other descriptor} live => ?_,
    ordered.rooted.creates created (register_eq_ok.mp registered).1⟩
  -- The new class has the name that it was defined with.
  by_cases new : other = id
  · subst new
    obtain ⟨kept, found, defined, _⟩ := created.kept
    rw [live, Option.some.injEq] at found
    subst found
    exact congrArg ClassDefinition.name defined ▸ clean.2
  · rw [created.others other new] at live
    exact ordered.closed live

/-- Taking a class without children out keeps a table in order. -/
theorem discard (ordered : table.Ordered) (last : table.Childless id) :
    (table.discard id).2.Ordered := by
  -- The classes that are left were there before.
  refine ⟨ordered.formed.discard id, ordered.counted.discard ordered.formed id,
    fun {other descriptor} live => ?_, ordered.rooted.discard ordered.formed last⟩
  obtain ⟨gone, found⟩ := last.live
  exact ordered.closed ((ordered.formed.get?_discard found).mp live).1

end ClassTable.Ordered

namespace Reflection

/-- The classes are in order, and the remembered targets are those of live classes. -/
structure Ordered (reflection : Reflection β) : Prop where
  classes : reflection.classes.Ordered
  elements : reflection.elements.Fits reflection.classes

/-- What a step keeps: everything in order, and all that plans for the watched classes depend on. -/
structure Keeps (watched : ClassId → Prop) (before after : Reflection β) : Prop where
  ordered : after.Ordered
  live : ∀ ⦃id⦄, watched id → ∃ descriptor, after.classes.get? id = some descriptor
  lookup? : ∀ {id reference target}, watched id →
    before.elements.lookup? id reference = some target →
      after.elements.lookup? id reference = some target
  bundle : ∀ {id}, watched id → after.bundle id = before.bundle id

/-- Without classes everything is in order. -/
theorem ordered_empty : (empty : Reflection β).Ordered :=
  ⟨.empty, ElementMemo.fits_empty⟩

variable {watched : ClassId → Prop} {before after : Reflection β} {id : ClassId}

/-- A bundle depends on the lineage of its class and on what the classes in it are decorated
with. -/
theorem bundle_eq (lineage : after.classes.lineage id = before.classes.lineage id)
    (decorated : ∀ pair ∈ before.classes.lineage id,
      after.decorations.byClass.get? pair.1 = before.decorations.byClass.get? pair.1) :
    after.bundle id = before.bundle id := by
  -- A bundle is made of the lineage and of what its classes are decorated with.
  unfold bundle Bundle.ofClass
  rw [lineage]
  refine congrArg Bundle.mk (List.map_congr_left fun pair member => ?_)
  rw [decorated pair member]

/-- A class without children that is not watched is no ancestor of a watched one. -/
theorem notMem_path (last : before.classes.Childless id) (unwatched : ¬ watched id)
    {used : ClassId} {path : List ClassId} (climbs : before.classes.Climbs used path)
    (watches : watched used) : id ∉ path := by
  -- A childless class is only on its own way.
  refine climbs.notMem_of_childless last ?_
  rintro rfl
  exact unwatched watches

section Steps

variable (ordered : before.Ordered)
  (live : ∀ ⦃id⦄, watched id → ∃ descriptor, before.classes.get? id = some descriptor)
include ordered live

/-- Doing nothing keeps everything. -/
theorem keeps_refl : Keeps watched before before :=
  ⟨ordered, live, fun _ found => found, fun _ => rfl⟩

/-- Remembering more elements keeps everything. -/
theorem keeps_elements {elements : ElementMemo} (fits : elements.Fits before.classes)
    (grows : before.elements.Grows elements) : Keeps watched before { before with elements } :=
  ⟨⟨ordered.classes, fits⟩, live, fun _ found => grows found, fun _ => rfl⟩

/-- Resolving an element keeps everything, and the target is on the element's class. -/
theorem keeps_resolve (element : Element) :
    Keeps watched before (before.resolve element).2 ∧
      ∀ {target}, (before.resolve element).1 = .ok target → target.owner.id = element.owner := by
  unfold resolve
  -- Only the memo of elements is changed.
  rcases ran : (element.resolve before.classes).run.run before.elements with ⟨result, elements⟩
  obtain ⟨fits, grows, found⟩ := Element.leaves_resolve element before.elements ordered.elements ran
  exact ⟨keeps_elements ordered live fits grows, fun same => (found _ same).1⟩

/-- Finding locations keeps everything. -/
theorem keeps_locate (value : Value) (classOf : InstanceId → Option ClassId)
    (className : InstanceId → String) :
    Keeps watched before (before.locate value classOf className).2 := by
  -- Targets are looked up without the locations.
  have located (id : ClassId) : Keeps watched before (before.locateClass id).2 := by
    unfold locateClass
    split
    · exact keeps_elements ordered live ordered.elements fun _ _ _ found => found
    · exact keeps_refl ordered live
  unfold locate
  dsimp only
  split
  · exact located _
  · exact keeps_refl ordered live

/-- Declaring an annotation keeps everything. -/
theorem keeps_declare (declared : AnnotationDecl β) :
    Keeps watched before (before.declare declared).2 := by
  -- A declaration concerns neither classes nor elements.
  unfold declare
  split
  · exact ⟨⟨ordered.classes, ordered.elements⟩, live, fun _ found => found, fun _ => rfl⟩
  · exact keeps_refl ordered live

/-- Registering a class under a clean name keeps everything; the new class is not watched, and has
no children yet. -/
theorem keeps_registerClass {definition : ClassDefinition β}
    (clean : ClassTable.CleanName definition.name) :
    Keeps watched before (before.registerClass definition).2 ∧
      ∀ {id}, (before.registerClass definition).1 = .ok id →
        ¬ watched id ∧ (before.registerClass definition).2.classes.Childless id := by
  unfold registerClass
  cases registered : before.classes.register definition with
  | error fault => exact ⟨keeps_refl ordered live, fun same => by contradiction⟩
  | ok made =>
    obtain ⟨fresh, classes⟩ := made
    have created := ordered.classes.creates clean registered
    have parents := (ClassTable.register_eq_ok.mp registered).1
    -- A class that was not there before cannot have been in use.
    have unwatched : ¬ watched fresh := by
      intro used
      obtain ⟨descriptor, found⟩ := live used
      rw [created.fresh] at found
      contradiction
    -- Classes that were live stay as they were.
    have kept {id : ClassId} {descriptor : ClassDescriptor β}
        (found : before.classes.get? id = some descriptor) :
        classes.get? id = some descriptor :=
      ordered.classes.formed.get?_register_of_get? registered found
    refine ⟨⟨⟨ordered.classes.register clean registered, ?_⟩, ?_, fun _ found => found, ?_⟩, ?_⟩
    · -- Remembered targets are on classes that are as they were.
      intro id reference target found
      obtain ⟨owner, named, descriptor, held, same⟩ := ordered.elements found
      exact ⟨owner, named, descriptor, kept held, same⟩
    · intro id used
      obtain ⟨descriptor, found⟩ := live used
      exact ⟨descriptor, kept found⟩
    · intro id used
      obtain ⟨descriptor, found⟩ := live used
      have lineage :=
        ordered.classes.formed.lineage_register ordered.classes.rooted registered found
      exact bundle_eq lineage fun _ _ => rfl
    · intro id same
      cases same
      exact ⟨unwatched, created.childless ordered.classes.rooted parents⟩

variable (last : before.classes.Childless id) (unwatched : ¬ watched id)
include last unwatched

/-- Discarding a class without children that is not watched keeps everything. -/
theorem keeps_discardClass : Keeps watched before (before.discardClass id) := by
  obtain ⟨gone, found⟩ := last.live
  have formed := ordered.classes.formed
  -- Taking one class out leaves the others and what is remembered for them.
  have others {other : ClassId} (different : other ≠ id) :
      (before.discardClass id).classes.get? other = before.classes.get? other :=
    (formed.get?_discard_eq found other).trans (if_neg different)
  have looked (other : ClassId) (reference : String) :
      (before.discardClass id).elements.lookup? other reference =
        if other = id then none else before.elements.lookup? other reference :=
    ElementMemo.lookup?_forgetTargets before.elements id other reference
  have apart {used : ClassId} (watches : watched used) : used ≠ id := by
    rintro rfl
    exact unwatched watches
  refine ⟨⟨ordered.classes.discard last, ?_⟩, ?_, ?_, ?_⟩
  · intro other reference target remembered
    rw [looked] at remembered
    split at remembered
    · contradiction
    · next different =>
      obtain ⟨owner, named, descriptor, held, same⟩ := ordered.elements remembered
      exact ⟨owner, named, descriptor, (others different).trans held, same⟩
  · intro used watches
    obtain ⟨descriptor, held⟩ := live watches
    exact ⟨descriptor, (others (apart watches)).trans held⟩
  · intro used reference target watches remembered
    rw [looked, if_neg (apart watches)]
    exact remembered
  · intro used watches
    obtain ⟨descriptor, held⟩ := live watches
    -- No class in use descends from the one that is gone.
    have lineage :=
        formed.lineage_discard ordered.classes.rooted last.childless held (apart watches)
    exact bundle_eq lineage fun _ _ => rfl

/-- A decoration of a class without children that is not watched keeps everything. -/
theorem keeps_record {decoration : Decoration β} (own : decoration.target.owner.id = id) :
    Keeps watched before (before.record decoration) := by
  refine ⟨⟨ordered.classes, ordered.elements⟩, live, fun _ found => found, fun {used} watches => ?_⟩
  obtain ⟨descriptor, held⟩ := live watches
  obtain ⟨path, climbs⟩ := ordered.classes.rooted held
  have absent := notMem_path last unwatched climbs watches
  -- The decoration is kept under a class that no watched lineage passes.
  refine bundle_eq rfl fun pair member => ?_
  have other : pair.1 ≠ decoration.target.owner.id := by
    rw [own]
    rintro rfl
    exact absent (climbs.mem_of_mem_lineage member)
  exact (Dictionary.get?_update _ _ _ _).trans (if_neg other)

end Steps

end Reflection

end AspectWeaving
