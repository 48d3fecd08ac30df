import AspectWeaving.Proofs.Class.Ancestry
import AspectWeaving.Proofs.Element.Calls
import AspectWeaving.Proofs.Element.References

/-! Which element a target is of: resolving two elements gives one target exactly if they are one
element, or two whose references happen to be spelled alike. -/

namespace AspectWeaving

variable {β : Type} {classes before after : ClassTable β} {a b element : Element}
  {kind : ElementKind} {target other : Target}

/-- What an element is known as depends on the lineage of its class. -/
theorem Element.KnownAs.of_lineage_eq (known : element.KnownAs before kind)
    (same : after.lineage element.owner = before.lineage element.owner) :
    element.KnownAs after kind := by
  -- Whether a member is a method or a property is looked up along the lineage.
  have methods (key : String) :
      after.findMethod? element.owner key = before.findMethod? element.owner key := by
    rw [ClassTable.findMethod?, same]
    rfl
  have properties (key : String) :
      after.findProperty? element.owner key = before.findProperty? element.owner key := by
    rw [ClassTable.findProperty?, same]
    rfl
  cases known with
  | whole => exact .whole
  | method has => exact .method ((congrArg Option.isSome (methods _)).trans has)
  | property lacks has =>
    exact .property ((congrArg Option.isNone (methods _)).trans lacks)
      ((congrArg Option.isSome (properties _)).trans has)
  | parameter has => exact .parameter ((congrArg Option.isSome (methods _)).trans has)

/-- Every remembered target is of an element that its class has. -/
def ElementMemo.Recognises (memo : ElementMemo) (classes : ClassTable β) : Prop :=
  ∀ ⦃id reference target⦄, memo.lookup? id reference = some target →
    target.element.KnownAs classes target.kind

/-- Resolving remembers targets of elements that the class has. -/
theorem Element.law_recognises : Resolving.Law classes (fun id location => location.owner = id)
    fun memo => memo.Settled classes ∧ memo.Recognises classes where
  ensure right made :=
    have ensured := law_settled.ensure right.1 made
    ⟨ensured.1, ensured.2, right.2⟩
  remember {vacant memo id reference target} earlier free right isAt known sited := by
    have settled := law_settled.remember earlier.1 free right.1 isAt known sited
    refine ⟨settled, fun asked wanted found looked => ?_⟩
    rw [ElementMemo.lookup?_remember] at looked
    -- The new target is remembered for an element that is known by its reference.
    split at looked
    · obtain rfl := Option.some.inj looked
      exact known
    · exact right.2 looked

namespace Reflection

variable {reflection : Reflection β}

/-- Anything may be called, but no class is discarded that has a live class below it. -/
def Allows (reflection : Reflection β) : ReflectionCall β → Prop
  | .discardClass id => ∀ child, ¬ reflection.classes.ParentOf child id
  | _ => True

/-- What any sequence of calls, each allowed when it is made, makes of reflection on nothing. -/
inductive Maintained : Reflection β → Prop where
  | empty : Maintained empty
  | call {reflection : Reflection β} {call : ReflectionCall β} (maintained : Maintained reflection)
      (allowed : reflection.Allows call) : Maintained (reflection.perform call)

/-- A class may always be registered. -/
theorem Maintained.registerClass (maintained : Maintained reflection)
    (definition : ClassDefinition β) : Maintained (reflection.registerClass definition).2 :=
  -- Any definition may be registered.
  .call maintained (show reflection.Allows (.registerClass definition) from trivial)

/-- Everything is where it belongs, the classes form hierarchies, and every remembered target is of
an element that its class has. -/
structure Sound (reflection : Reflection β) : Prop where
  settled : reflection.Settled
  classes : ClassTable.Maintained reflection.classes
  recognises : reflection.elements.Recognises reflection.classes

/-- Reflection on nothing is sound. -/
theorem sound_empty : (empty : Reflection β).Sound :=
  -- There are no classes, and nothing is remembered.
  ⟨settled_empty, .empty, fun _ _ _ found => by contradiction⟩

/-- Registering a class leaves what the others have. -/
theorem Sound.registerClass (sound : reflection.Sound) (definition : ClassDefinition β) :
    (reflection.registerClass definition).2.Sound := by
  have settled := sound.settled.registerClass definition
  have maintained := sound.classes.register definition
  simp only [Reflection.registerClass, ClassTable.perform] at settled maintained ⊢
  cases registered : reflection.classes.register definition with
  | error fault => exact sound
  | ok made =>
    simp only [registered] at settled maintained
    refine ⟨settled, maintained, fun asked reference target found => ?_⟩
    obtain ⟨rfl, _, descriptor, live, _⟩ := sound.settled.elements.fits found
    -- A target is on a live class, which stays below the classes that it was below.
    have same :=
      sound.settled.formed.lineage_register sound.classes.tended.rooted registered live
    exact (sound.recognises found).of_lineage_eq same

/-- Discarding a class that no live class is below leaves what the others have. -/
theorem Sound.discardClass (sound : reflection.Sound) {id : ClassId}
    (allowed : ∀ child, ¬ reflection.classes.ParentOf child id) :
    (reflection.discardClass id).Sound := by
  have discards : reflection.classes.Allows (.discard id) := allowed
  refine ⟨sound.settled.discardClass id, .call sound.classes discards,
    fun asked reference target found => ?_⟩
  obtain ⟨different, found⟩ := ElementMemo.lookup?_forgetTargets_eq_some.mp found
  obtain ⟨rfl, _, descriptor, live, _⟩ := sound.settled.elements.fits found
  -- The class of a target that is left is not below the one that is gone.
  have same := sound.settled.formed.lineage_discard sound.classes.tended.rooted
    (fun found below => allowed _ ⟨_, found, below⟩) live different
  exact (sound.recognises found).of_lineage_eq same

/-- Resolving an element leaves what the classes have, and remembers what is. -/
theorem Sound.resolve (sound : reflection.Sound) (element : Element) :
    (reflection.resolve element).2.Sound := by
  -- Resolving keeps to the law of what is recognised.
  unfold Reflection.resolve
  rcases ran : (element.resolve reflection.classes).run.run reflection.elements with
    ⟨result, elements⟩
  obtain ⟨⟨settled, recognises⟩, _⟩ := Element.keeps_resolve Element.law_recognises element
    ⟨sound.settled.elements, sound.recognises⟩ ran
  exact ⟨⟨sound.settled.formed, settled⟩, sound.classes, recognises⟩

/-- A call that is allowed keeps reflection sound. -/
theorem Sound.perform (sound : reflection.Sound) {call : ReflectionCall β}
    (allowed : reflection.Allows call) : (reflection.perform call).Sound := by
  have settled := sound.settled.perform call
  cases call with
  | registerClass definition => exact sound.registerClass definition
  | discardClass id => exact sound.discardClass allowed
  | resolve element => exact sound.resolve element
  | record decoration => exact ⟨settled, sound.classes, sound.recognises⟩
  | forgetTargets id =>
    exact ⟨settled, sound.classes, fun _ _ _ found =>
      sound.recognises (ElementMemo.lookup?_forgetTargets_eq_some.mp found).2⟩
  | forgetLocations id => exact ⟨settled, sound.classes, sound.recognises⟩
  | declare declared | locateClass id | ensure id kind member index =>
    -- Whether or not the call succeeds, neither classes nor targets change.
    refine ⟨settled, ?_, ?_⟩
    · simp only [Reflection.perform, Reflection.declare, Reflection.locateClass]
      split <;> exact sound.classes
    · simp only [Reflection.perform, Reflection.declare, Reflection.locateClass]
      split <;> exact sound.recognises

/-- Reflection that is maintained is sound. -/
theorem Maintained.sound (maintained : Maintained reflection) : reflection.Sound := by
  -- The induction is on the sequence of calls.
  induction maintained with
  | empty => exact sound_empty
  | call _ allowed sound => exact sound.perform allowed

/-- An element has been resolved to a target, which is remembered under the element's reference. -/
def Answers (reflection : Reflection β) (element : Element) (target : Target) : Prop :=
  ∃ reference, element.KnownBy reflection.classes reference ∧
    reflection.elements.lookup? element.owner reference = some target

/-- The target of an element answers for it. -/
theorem Sound.answers (sound : reflection.Sound)
    (resolved : (reflection.resolve element).1 = .ok target) :
    (reflection.resolve element).2.Answers element target :=
  -- What resolving gives is remembered.
  (sound.settled.resolve element).2 resolved

/-- A target goes on answering for an element when another one is resolved. -/
theorem Answers.resolve (answers : reflection.Answers a target) (sound : reflection.Sound) :
    (reflection.resolve b).2.Answers a target := by
  -- Resolving forgets nothing.
  obtain ⟨reference, known, found⟩ := answers
  unfold Reflection.resolve
  rcases ran : (b.resolve reflection.classes).run.run reflection.elements with ⟨result, elements⟩
  obtain ⟨_, grows, _⟩ :=
    Element.leaves_resolve b reflection.elements sound.settled.elements.fits ran
  exact ⟨reference, known, grows found⟩

/-- What the targets of two elements tell about them. -/
structure Tells (classes : ClassTable β) (a b : Element) (target other : Target) : Prop where
  -- One target is that of one element, or of two that clash.
  identity : target = other ↔ a = b ∨ a.Clash classes b
  carries : target.element = a ∨ target.element.Clash classes a
  -- No class reference may close its own bracket, where there are two of them.
  references : a.owner = b.owner ∨
      (']' ∉ target.owner.reference.toList ∧ ']' ∉ other.owner.reference.toList) →
    (target.reference = other.reference ↔ a = b ∨ a.Clash classes b)

/-- Targets that answer for two elements tell about them. -/
theorem Sound.tells (sound : reflection.Sound) (answers : reflection.Answers a target)
    (answers' : reflection.Answers b other) : Tells reflection.classes a b target other := by
  obtain ⟨reference, known, found⟩ := answers
  obtain ⟨reference', known', found'⟩ := answers'
  obtain ⟨owner, named, descriptor, live, refers⟩ := sound.settled.elements.fits found
  obtain ⟨owner', named', descriptor', live', refers'⟩ := sound.settled.elements.fits found'
  have shared (together : a.owner = b.owner) :
      target.reference = other.reference ↔ a = b ∨ a.Clash reflection.classes b := by
    rw [named, named']
    exact known.reference_eq_iff known' together
  have together (same : a = b ∨ a.Clash reflection.classes b) : a.owner = b.owner := by
    rcases same with rfl | clash
    · rfl
    · exact clash.owner_eq
  refine ⟨⟨fun same => ?_, fun same => ?_⟩, ?_, fun apart => ?_⟩
  · -- One target is on one class.
    subst same
    exact (shared (owner.symm.trans owner')).mp rfl
  · -- Both are looked up in one place.
    have place := (shared (together same)).mpr same
    rw [named, named'] at place
    rw [place, together same, found'] at found
    exact (Option.some.inj found).symm
  · have own : target.element.KnownBy reflection.classes reference :=
      ⟨descriptor, target.kind, (congrArg reflection.classes.get? owner).trans live,
        sound.recognises found, by rw [refers]; exact named⟩
    exact (own.reference_eq_iff known owner).mp rfl
  · rcases apart with one | ⟨closed, closed'⟩
    · exact shared one
    · refine ⟨fun same => (shared ?_).mp same, fun same => (shared (together same)).mpr same⟩
      -- The classes have one reference, and so they are one class.
      have classes := Target.owner_reference_eq closed closed' same
      rw [← refers, ← refers'] at classes
      exact sound.settled.formed.reference_inj live live' classes

/-- Elements that are resolved one after the other have one target exactly if they are one element
or clash, their targets carry what the elements name, and so do the references of the targets. -/
theorem Maintained.resolve_tells (maintained : Maintained reflection)
    (first : (reflection.resolve a).1 = .ok target)
    (second : ((reflection.resolve a).2.resolve b).1 = .ok other) :
    Tells reflection.classes a b target other := by
  -- Both targets are remembered in the end, so that they can be compared there.
  have between := maintained.sound.resolve a
  have answers := (maintained.sound.answers first).resolve (b := b) between
  exact (between.resolve b).tells answers (between.answers second)

/-- A class below one with a method has a target for the method and another one for a parameter. -/
theorem resolve_tells_inherited :
    let base := { ClassTable.named "Base" with methods := Dictionary.ofList [("run", none)] }
    let child := { ClassTable.named "Child" with parent := some ⟨0⟩ }
    let reflection := ((empty.registerClass base).2.registerClass child).2
    let top := Target.root ⟨⟨0⟩, "Base", "Base"⟩ (.ofClass ⟨0⟩)
    let owner : Owner := ⟨⟨1⟩, "Child", "Child"⟩
    let method := Target.method owner (.ofMethod ⟨1⟩ "run") "run"
      (.subclass owner (.ofClass ⟨1⟩) top) top
    let parameter := Target.parameter owner (.ofParameter ⟨1⟩ "run" 1) "run" 1 method
    let a := Element.ofMember ⟨1⟩ "run"
    let b := Element.ofParameter ⟨1⟩ "run" 1
    Maintained reflection ∧ (reflection.resolve a).1 = .ok method ∧
      ((reflection.resolve a).2.resolve b).1 = .ok parameter ∧
      Tells reflection.classes a b method parameter := by
  -- A method and its parameter are told apart, although both are inherited.
  intro base child reflection top owner method parameter a b
  have maintained : Maintained reflection :=
    (Maintained.empty.registerClass base).registerClass child
  have first : (reflection.resolve a).1 = .ok method := by decide +kernel
  have second : ((reflection.resolve a).2.resolve b).1 = .ok parameter := by decide +kernel
  exact ⟨maintained, first, second, maintained.resolve_tells first second⟩

/-- A method whose name spells the place of a parameter and the parameter have one target. -/
theorem resolve_one_target_for_two :
    let methods := Dictionary.ofList [("x", none), ("x].a[0", none)]
    let calls := [ReflectionCall.registerClass { ClassTable.named "A" with methods }]
    let reflection := calls.foldl Reflection.perform empty
    let a := Element.ofMember ⟨0⟩ "x].a[0"
    let b := Element.ofParameter ⟨0⟩ "x" 0
    ∃ target, (reflection.resolve a).1 = .ok target ∧
      ((reflection.resolve a).2.resolve b).1 = .ok target ∧ a ≠ b ∧ target.index? ≠ b.index := by
  -- The name of the method looks like the end of the parameter's reference.
  refine ⟨_, rfl, rfl, by decide, by decide⟩

end Reflection

end AspectWeaving
