import AspectWeaving.Proofs.Element.Mirror

/-! Locations mirror targets: whatever is called, every remembered target is at its place in the
tree of its class, and a tree only grows until its class is discarded. -/

namespace AspectWeaving

variable {β : Type} {classes : ClassTable β} {id : ClassId}

namespace ElementMemo

variable {memo before after : ElementMemo}

/-- Every tree is that of its class, and every remembered target is at its own place in a tree. -/
structure Mirrors (memo : ElementMemo) (classes : ClassTable β) : Prop where
  trees : memo.locations.Mirrors classes
  targets : ∀ ⦃id reference target⦄, memo.lookup? id reference = some target →
    target.location.IsOf target.element target.kind ∧ memo.locations.Holds target.location

/-- Nothing is remembered at first. -/
theorem mirrors_empty : ElementMemo.empty.Mirrors classes :=
  -- Nothing is remembered.
  ⟨fun _ _ found => by contradiction, fun _ _ _ found => by contradiction⟩

/-- Targets stay at their places when a location is found. -/
theorem Mirrors.relocate (mirrors : memo.Mirrors classes) {locations : LocationForest}
    {element : Element} {kind : ElementKind} {location : Location}
    (finds : memo.locations.Finds locations classes element kind location) :
    { memo with locations }.Mirrors classes where
  -- Places only grow, so that the places of targets are among them still.
  trees := finds.mirrors
  targets _ _ _ found :=
    have placed := mirrors.targets found
    ⟨placed.1, placed.2.grow (finds.grows _)⟩

/-- A target that is at its place in a tree may be remembered. -/
theorem Mirrors.remember (mirrors : memo.Mirrors classes) {target : Target}
    (isOf : target.location.IsOf target.element target.kind)
    (holds : memo.locations.Holds target.location) (id : ClassId) (reference : String) :
    (memo.remember id reference target).Mirrors classes := by
  -- The new target is where its element has its place.
  refine ⟨mirrors.trees, fun asked wanted found looked => ?_⟩
  rw [lookup?_remember] at looked
  split at looked
  · obtain rfl := Option.some.inj looked
    exact ⟨isOf, holds⟩
  · exact mirrors.targets looked

/-- Resolving keeps targets at their places, and trees only grow. -/
theorem Resolves.mirrors (resolves : before.Resolves classes after)
    (mirrors : before.Mirrors classes) :
    after.Mirrors classes ∧ ∀ id, before.locations.GrowsAt after.locations id := by
  -- The induction is on the steps of resolving.
  induction resolves with
  | refl memo => exact ⟨mirrors, fun id => .refl _ id⟩
  | trans _ _ first second =>
    obtain ⟨mirrors, grows⟩ := first mirrors
    obtain ⟨mirrors, further⟩ := second mirrors
    exact ⟨mirrors, fun id => (grows id).trans (further id)⟩
  | locate known ensured =>
    have finds := mirrors.trees.ensure known ensured
    exact ⟨mirrors.relocate finds, finds.grows⟩
  | make _ isAt known ensured _ ih =>
    obtain rfl := isAt.owner
    have finds := mirrors.trees.ensure known ensured
    obtain ⟨mirrors, grows⟩ := ih (mirrors.relocate finds)
    -- The place was found before other targets were made, and no tree has lost it since.
    have holds := finds.holds.grow (grows _)
    exact ⟨mirrors.remember finds.isOf holds _ _, fun id => (finds.grows id).trans (grows id)⟩

/-- Targets and trees stay those of their classes if the lineages of the classes stay. -/
theorem Mirrors.of_lineage_eq {classes' : ClassTable β} (mirrors : memo.Mirrors classes)
    (same : ∀ ⦃id descriptor⦄, classes.get? id = some descriptor →
      classes'.lineage id = classes.lineage id ∧ classes'.get? id = some descriptor) :
    memo.Mirrors classes' := by
  refine ⟨fun id tree found => ?_, mirrors.targets⟩
  -- There are trees of live classes only, so that what is said of live classes is enough.
  obtain ⟨descriptor, live, _⟩ := (mirrors.trees found).live
  obtain ⟨lineage, kept⟩ := same live
  exact (mirrors.trees found).of_lineage_eq lineage (kept.trans live.symm)

end ElementMemo

/-- A call that goes through reflection as a whole, and not past it to one of its parts. -/
def ReflectionCall.Whole : ReflectionCall β → Prop
  | .ensure _ _ _ _ | .forgetTargets _ | .forgetLocations _ => False
  | _ => True

namespace Reflection

variable {reflection : Reflection β} {call : ReflectionCall β}

/-- What calls that go through reflection make of reflection on nothing. -/
inductive Reached : Reflection β → Prop where
  | empty : Reached empty
  | call {reflection : Reflection β} {call : ReflectionCall β} (reached : Reached reflection)
      (whole : call.Whole) (allowed : reflection.Allows call) : Reached (reflection.perform call)

/-- What is reached has been maintained. -/
theorem Reached.maintained (reached : Reached reflection) : Maintained reflection := by
  -- Whatever is reached in whole calls is reached in calls.
  induction reached with
  | empty => exact .empty
  | call _ _ allowed maintained => exact .call maintained allowed

/-- Locating a value finds the tree of its class, or nothing. -/
theorem Reached.locate (reached : Reached reflection) (value : Value)
    (classOf : InstanceId → Option ClassId) (className : InstanceId → String) :
    Reached (reflection.locate value classOf className).2 := by
  -- A value that is not of a class, or whose class is gone, changes nothing.
  unfold Reflection.locate
  dsimp only
  split
  · next id _ =>
    have whole : (ReflectionCall.locateClass id : ReflectionCall β).Whole := trivial
    exact reached.call whole trivial
  · exact reached

/-- A call leaves every target at its place, and trees of classes that are kept only grow. -/
structure Coheres (before after : Reflection β) (call : ReflectionCall β) : Prop where
  mirrors : after.elements.Mirrors after.classes
  grows : ∀ ⦃id⦄, call ≠ .discardClass id →
    before.elements.locations.GrowsAt after.elements.locations id

/-- Registering a class leaves the trees of the others as they are. -/
theorem Sound.coheres_registerClass (sound : reflection.Sound)
    (mirrors : reflection.elements.Mirrors reflection.classes) (definition : ClassDefinition β) :
    reflection.Coheres (reflection.perform (.registerClass definition))
      (.registerClass definition) := by
  simp only [Reflection.perform, Reflection.registerClass]
  cases registered : reflection.classes.register definition with
  | error fault => exact ⟨mirrors, fun id _ => .refl _ id⟩
  | ok made =>
    -- A class that is live already keeps its lineage, whichever slot the new one takes.
    refine ⟨mirrors.of_lineage_eq fun id descriptor live => ?_, fun id _ => .refl _ id⟩
    have formed := sound.settled.formed
    exact ⟨formed.lineage_register sound.classes.tended.rooted registered live,
      formed.get?_register_of_get? registered live⟩

/-- Discarding a class takes its targets and its tree along, and no others. -/
theorem Sound.coheres_discardClass (sound : reflection.Sound)
    (mirrors : reflection.elements.Mirrors reflection.classes)
    (allowed : ∀ child, ¬ reflection.classes.ParentOf child id) :
    reflection.Coheres (reflection.perform (.discardClass id)) (.discardClass id) := by
  have formed := sound.settled.formed
  have forgotten : (reflection.elements.locations.forget id).trees.get? id = none :=
    (Dictionary.get?_erase ..).trans (if_pos rfl)
  have kept {asked : ClassId} (different : asked ≠ id) :
      (reflection.elements.locations.forget id).trees.get? asked =
        reflection.elements.locations.trees.get? asked :=
    (Dictionary.get?_erase ..).trans (if_neg different)
  refine ⟨⟨fun asked tree found => ?_, fun asked reference target found => ?_⟩,
    fun asked apart tree found => ?_⟩
  · have different : asked ≠ id := by
      rintro rfl
      cases forgotten.symm.trans found
    have own := mirrors.trees ((kept different).symm.trans found)
    obtain ⟨descriptor, live, _⟩ := own.live
    -- The class of a tree that is left is not below the one that is gone.
    have lineage := formed.lineage_discard sound.classes.tended.rooted
      (fun found below => allowed _ ⟨_, found, below⟩) live different
    exact own.of_lineage_eq lineage (formed.get?_discard_of_ne id different)
  · -- A target that is left is of another class, whose tree is left as well.
    obtain ⟨different, found⟩ := ElementMemo.lookup?_forgetTargets_eq_some.mp found
    obtain ⟨isOf, tree, held, among⟩ := mirrors.targets found
    have owner : target.location.owner ≠ id := by
      rw [isOf.owner]
      exact (sound.settled.elements.fits found).owner.trans_ne different
    exact ⟨isOf, tree, (kept owner).trans held, among⟩
  · have different : asked ≠ id := fun same => apart (same ▸ rfl)
    exact ⟨tree, (kept different).trans found, .refl tree⟩

/-- Every call through reflection leaves targets at their places. -/
theorem Sound.coheres (sound : reflection.Sound)
    (mirrors : reflection.elements.Mirrors reflection.classes) (whole : call.Whole)
    (allowed : reflection.Allows call) :
    reflection.Coheres (reflection.perform call) call := by
  -- Declaring and recording touch neither targets nor trees.
  have unchanged {after : Reflection β} (elements : after.elements = reflection.elements)
      (classes : after.classes = reflection.classes) : reflection.Coheres after call := by
    refine ⟨?_, fun id _ => ?_⟩
    · rw [elements, classes]
      exact mirrors
    · rw [elements]
      exact .refl _ id
  cases call with
  | registerClass definition => exact sound.coheres_registerClass mirrors definition
  | discardClass id => exact sound.coheres_discardClass mirrors allowed
  | declare declared =>
    simp only [Reflection.perform, Reflection.declare]
    split <;> exact unchanged rfl rfl
  | resolve element =>
    simp only [Reflection.perform, Reflection.resolve]
    rcases ran : (element.resolve reflection.classes).run.run reflection.elements with
      ⟨result, elements⟩
    obtain ⟨resolves, _⟩ := Element.resolves_resolve element (.refl _) ran
    obtain ⟨mirrors, grows⟩ := resolves.mirrors mirrors
    exact ⟨mirrors, fun id _ => grows id⟩
  | locateClass id =>
    simp only [Reflection.perform, Reflection.locateClass]
    split
    · next made =>
      obtain ⟨location, ensured⟩ := LocationForest.exists_ensure_of_ofClass made
      have known : (Element.ofClass id).KnownAs reflection.classes .classType := .whole
      have finds := mirrors.trees.ensure known ensured
      exact ⟨mirrors.relocate finds, fun id _ => finds.grows id⟩
    · exact unchanged rfl rfl
  | record decoration => exact unchanged rfl rfl
  | ensure | forgetTargets | forgetLocations => exact whole.elim

/-- Whatever is called through reflection, targets are at their places. -/
theorem Reached.mirrors (reached : Reached reflection) :
    reflection.elements.Mirrors reflection.classes := by
  -- The induction is on the calls.
  induction reached with
  | empty => exact ElementMemo.mirrors_empty
  | call reached whole allowed mirrors =>
    exact (reached.maintained.sound.coheres mirrors whole allowed).mirrors

/-- Locations mirror targets: every remembered target is at its own place in the tree of its class,
every entry of a tree is the member that the class has with the places of its parameters, and every
call that does not discard a class only appends to the tree of the class. -/
theorem Reached.locations_mirror_targets (reached : Reached reflection) :
    reflection.elements.Mirrors reflection.classes ∧
      ∀ call : ReflectionCall β, call.Whole → reflection.Allows call →
        ∀ id, call ≠ .discardClass id → reflection.elements.locations.GrowsAt
          (reflection.perform call).elements.locations id :=
  -- No allowed call breaks it, and places shrink only where a class is discarded.
  ⟨reached.mirrors, fun _ whole allowed _ kept =>
    (reached.maintained.sound.coheres reached.mirrors whole allowed).grows kept⟩

/-- The places of an inherited method on the class below: two of them when the second parameter has
been resolved, and more when a later one is. -/
theorem locations_mirror_targets_inherited :
    let base := { ClassTable.named "Base" with methods := Dictionary.ofList [("run", none)] }
    let child := { ClassTable.named "Child" with parent := some ⟨0⟩ }
    let later := ReflectionCall.resolve (.ofParameter ⟨1⟩ "run" 3)
    let reflection := ((empty.perform (.registerClass base)).perform (.registerClass child)).perform
      (.resolve (.ofParameter ⟨1⟩ "run" 1))
    let places := MemberTree.places ⟨1⟩ "run"
    let entry (reflection : Reflection Unit) :=
      (reflection.elements.locations.trees.get? ⟨1⟩).bind fun tree => tree.members.get? "run"
    entry reflection = some ⟨.ofMethod ⟨1⟩ "run", some (places 2)⟩ ∧
      entry (reflection.perform later) = some ⟨.ofMethod ⟨1⟩ "run", some (places 4)⟩ ∧
      Reached reflection ∧ reflection.elements.Mirrors reflection.classes ∧
      reflection.elements.locations.GrowsAt
        (reflection.perform later).elements.locations ⟨1⟩ := by
  -- The method of the parent has its places with the child, as many as were asked for.
  intro base child later reflection places entry
  have reached : Reached reflection :=
    .call (.call (.call .empty trivial trivial) trivial trivial) trivial trivial
  obtain ⟨mirrors, grows⟩ := reached.locations_mirror_targets
  exact ⟨by decide +kernel, by decide +kernel, reached, mirrors,
    grows later trivial trivial ⟨1⟩ nofun⟩

end Reflection

end AspectWeaving
