import AspectWeaving.Proofs.Class.Dispatch
import AspectWeaving.Proofs.Element.Coherence
import AspectWeaving.Proofs.Element.Joining
import AspectWeaving.Proofs.Element.Kinds

/-! The links of a target are the hierarchy: every link leads to the very target that resolving the
linked element finds, before or after, whatever is resolved in between and in whatever order. -/

namespace AspectWeaving

variable {β : Type} {id declaring : ClassId} {path : List ClassId} {name : String}
  {element : Element} {target other : Target}

namespace ClassTable

variable {classes before after : ClassTable β} {descriptor : ClassDescriptor β}

/-- The nearest class that declares a name: the class itself, or else the nearest one above it. -/
inductive DeclaredBy (classes : ClassTable β) (name : String) : ClassId → ClassId → Prop where
  | own {id : ClassId} {descriptor : ClassDescriptor β}
      (live : classes.get? id = some descriptor) (declares : descriptor.declares name = true) :
      DeclaredBy classes name id id
  | inherited {id parent declaring : ClassId} {descriptor : ClassDescriptor β}
      (live : classes.get? id = some descriptor) (lacks : descriptor.declares name = false)
      (below : descriptor.parent = some parent) (above : DeclaredBy classes name parent declaring) :
      DeclaredBy classes name id declaring

/-- The class that is found to declare a name is the nearest one. -/
theorem Climbs.declaredBy (climbs : classes.Climbs id path)
    (found : classes.declaringClass? id name = some declaring) :
    classes.DeclaredBy name id declaring := by
  unfold declaringClass? at found
  -- The induction is on the way up; each class on it declares the name or is passed.
  induction climbs with
  | @root id descriptor live top =>
    rw [lineage_of_root live top, List.find?_singleton] at found
    split at found
    · next declares =>
      obtain rfl := Option.some.inj found
      exact .own live declares
    · contradiction
  | @child id parent descriptor path live below climbs ih =>
    rw [lineage_of_child live below climbs, List.find?_cons] at found
    split at found
    · next declares =>
      obtain rfl := Option.some.inj found
      exact .own live declares
    · next lacks => exact .inherited live lacks below (ih found)

/-- No live class has a method with a closing bracket in its name. -/
def Bracketless (classes : ClassTable β) : Prop :=
  ∀ ⦃id descriptor⦄, classes.get? id = some descriptor →
    ∀ name ∈ descriptor.methods.keys, ']' ∉ name.toList

/-- Without such names every element has its reference for itself. -/
theorem Bracketless.unspelled (bracketless : classes.Bracketless) (element : Element) :
    element.Unspelled classes := by
  have nowhere {a b : Element} : ¬ Element.Spells classes a b := by
    rintro ⟨method, _⟩
    -- The method that spells the place of a parameter is one of a live class.
    obtain ⟨pair, among, has⟩ := List.findSome?_isSome_iff.mp method
    obtain ⟨passed, _, found⟩ := List.mem_filterMap.mp among
    obtain ⟨descriptor, live, rfl⟩ := Option.map_eq_some_iff.mp found
    rw [Option.isSome_map, Option.isSome_iff_exists] at has
    exact bracketless live _ (Dictionary.mem_keys.mpr has) (by simp [Target.placeName])
  rintro other (spells | spells) <;> exact nowhere spells

/-- A class that is live when one has been registered is the new one or was live before. -/
theorem WellFormed.get?_of_get?_register (formed : before.WellFormed)
    {definition : ClassDefinition β} (registered : before.register definition = .ok (id, after))
    {asked : ClassId} (live : after.get? asked = some descriptor) :
    before.get? asked = some descriptor ∨ descriptor.toClassDefinition = definition := by
  cases taken : before.getByReference? (before.nextReference definition.name) with
  | none =>
    have created := formed.creates registered taken
    by_cases new : asked = id
    · subst new
      obtain ⟨kept, found, defined, _⟩ := created.kept
      obtain rfl := Option.some.inj (live.symm.trans found)
      exact .inr defined
    · exact .inl ((created.others asked new).symm.trans live)
  | some bearer =>
    -- Nothing is added to the arena.
    have same := (formed.register_merges registered taken).2
    rw [get?, same] at live
    exact .inl live

/-- A class that is live when one has been discarded was live before. -/
theorem WellFormed.get?_of_get?_discard (formed : before.WellFormed) {asked : ClassId}
    (live : (before.discard id).2.get? asked = some descriptor) :
    before.get? asked = some descriptor := by
  -- No class is added by a discard.
  cases found : before.get? id with
  | none => rwa [discard_of_get?_eq_none found] at live
  | some gone => exact ((formed.get?_discard found).mp live).1

end ClassTable

/-- A member that a class has is declared by some class. -/
theorem Element.KnownAs.exists_declaringClass? {classes : ClassTable β} {kind : ElementKind}
    (known : (ofMember id name).KnownAs classes kind) :
    ∃ declaring, classes.declaringClass? id name = some declaring := by
  -- A member is known only if some class of the lineage declares it.
  have declared : ∃ pair ∈ classes.lineage id, pair.2.declares name = true := by
    cases known with
    | method has =>
      obtain ⟨pair, among, has⟩ := List.findSome?_isSome_iff.mp has
      rw [Option.isSome_map] at has
      exact ⟨pair, among, Bool.or_eq_true_iff.mpr (.inl has)⟩
    | property _ has =>
      obtain ⟨pair, among, has⟩ := List.findSome?_isSome_iff.mp has
      rw [Option.isSome_map] at has
      exact ⟨pair, among, Bool.or_eq_true_iff.mpr (.inr has)⟩
  obtain ⟨pair, among, declares⟩ := declared
  rw [← Option.isSome_iff_exists]
  unfold ClassTable.declaringClass?
  rw [Option.isSome_map, List.find?_isSome]
  exact ⟨pair, among, declares⟩

/-- An element for which a target answers is resolved to the target, and nothing is made. -/
theorem Element.run_resolve {classes : ClassTable β} {memo : ElementMemo}
    (answers : memo.Answers classes element target) :
    (element.resolve classes).run.run memo = (.ok target, memo) := by
  obtain ⟨reference, ⟨descriptor, kind, live, known, refers⟩, found⟩ := answers
  have recalls (make : Resolving Target) :
      (remembered element.owner reference make).run.run memo = (.ok target, memo) := by
    refine Fallible.run_bind_eq.mpr (.inl ⟨memo, memo, rfl, ?_⟩)
    rw [found]
    rfl
  have looks : (Resolving.ofExcept (classes.get element.owner)).run.run memo =
      (.ok descriptor, memo) := by
    rw [ClassTable.get_of_get? live, Resolving.run_ofExcept]
  have kinds : (Resolving.ofExcept (element.kindOn classes descriptor)).run.run memo =
      (.ok kind, memo) := by
    rw [kindOn_eq_ok.mpr known, Resolving.run_ofExcept]
  subst refers
  refine Fallible.run_bind_eq.mpr (.inl ⟨descriptor, memo, looks, ?_⟩)
  refine Fallible.run_bind_eq.mpr (.inl ⟨kind, memo, kinds, ?_⟩)
  -- Whatever the element is known as, its target is asked for under the element's reference.
  cases known with
  | whole => exact Fallible.run_bind_eq.mpr (.inl ⟨descriptor, memo, looks, recalls _⟩)
  | method | property | parameter => exact recalls _

/-- The targets that are passed on the way from one up along the parent classes, itself first. -/
inductive Target.Visits : Target → List Target → Prop where
  | last {target : Target} (top : target.parentClass? = none) : Visits target [target]
  | next {target parent : Target} {visited : List Target}
      (above : target.parentClass? = some parent) (further : Visits parent visited) :
      Visits target (target :: visited)

/-- A call that gives no method a name with a closing bracket. -/
def ReflectionCall.Bracketless : ReflectionCall β → Prop
  | .registerClass definition => ∀ name ∈ definition.methods.keys, ']' ∉ name.toList
  | _ => True

namespace Reflection

variable {reflection before between after start finish : Reflection β} {call : ReflectionCall β}
  {gone : ClassId → Prop} {kept : List ClassId}

/-- What calls through reflection make of what there is, if no method is given a name with a closing
bracket and no class is discarded that is to be kept. -/
inductive Leads (kept : List ClassId) (before : Reflection β) : Reflection β → Prop where
  | refl : Leads kept before before
  | call {between : Reflection β} {call : ReflectionCall β} (leads : Leads kept before between)
      (whole : call.Whole) (allowed : between.Allows call) (bracketless : call.Bracketless)
      (keeps : ∀ id ∈ kept, call ≠ .discardClass id) : Leads kept before (between.perform call)

/-- What is left by calls that resolve nothing: all classes but some that are gone, of which none is
the parent of another, and the targets of those that are left. -/
structure Spares (gone : ClassId → Prop) (before after : Reflection β) : Prop where
  classes : ∀ ⦃id descriptor⦄, before.classes.get? id = some descriptor → ¬ gone id →
    after.classes.get? id = some descriptor
  parents : ∀ ⦃child parent⦄, before.classes.ParentOf child parent → ¬ gone parent
  targets : ∀ ⦃id reference target⦄,
    after.elements.lookup? id reference = some target ↔
      ¬ gone id ∧ before.elements.lookup? id reference = some target

namespace Spares

/-- The classes on the way up from one that is left are left as they are. -/
theorem agree (spares : Spares gone before after) (climbs : before.classes.Climbs id path)
    (stays : ¬ gone id) {passed : ClassId} (member : passed ∈ path) :
    ¬ gone passed ∧ after.classes.get? passed = before.classes.get? passed := by
  have left : ¬ gone passed := by
    by_cases first : passed = id
    · rwa [first]
    · -- Further up there are parents only.
      obtain ⟨child, descriptor, live, below⟩ := climbs.parent_of_mem member first
      exact spares.parents ⟨descriptor, live, below⟩
  obtain ⟨descriptor, live⟩ := climbs.live member
  exact ⟨left, (spares.classes live left).trans live.symm⟩

/-- What answers for an element of a class that is left goes on answering for it. -/
theorem answers (spares : Spares gone before after) (rooted : before.classes.Rooted)
    (stays : ¬ gone element.owner) (answers : before.Answers element target) :
    after.Answers element target := by
  -- The way up from the owner avoids the classes that are gone, and so it stays.
  obtain ⟨reference, ⟨descriptor, kind, live, known, refers⟩, found⟩ := answers
  obtain ⟨path, climbs⟩ := rooted live
  have lineage := climbs.lineage_eq fun _ member => (spares.agree climbs stays member).2
  exact ⟨reference, ⟨descriptor, kind, spares.classes live stays, known.of_lineage_eq lineage,
    refers⟩, spares.targets.mpr ⟨stays, found⟩⟩

/-- The targets that are left are joined to each other. -/
theorem joined (spares : Spares gone before after) (sound : before.Sound)
    (joined : before.elements.Joined before.classes) : after.elements.Joined after.classes := by
  -- Each target is remembered for a class that stays, as does all that it links to.
  intro id reference target found
  have rooted := sound.classes.tended.rooted
  obtain ⟨stays, found⟩ := spares.targets.mp found
  obtain ⟨rfl, _, descriptor, live, _⟩ := sound.settled.elements.fits found
  obtain ⟨path, climbs⟩ := rooted live
  refine (joined found).of_climbs climbs
    (fun _ member => (spares.agree climbs stays member).2) fun element other member answers => ?_
  exact spares.answers rooted (spares.agree climbs stays member).1 answers

end Spares

/-- A call that resolves nothing leaves all classes but the one that it discards. -/
theorem Sound.spares (sound : reflection.Sound) (whole : call.Whole)
    (allowed : reflection.Allows call) (idle : ∀ element, call ≠ .resolve element) :
    Spares (fun id => call = .discardClass id) reflection (reflection.perform call) := by
  have formed := sound.settled.formed
  -- But for the discarded class, classes may be added, and targets stay.
  have adds {after : Reflection β} (apart : ∀ id, call ≠ .discardClass id)
      (classes : ∀ id descriptor, reflection.classes.get? id = some descriptor →
        after.classes.get? id = some descriptor)
      (targets : after.elements.targets = reflection.elements.targets) :
      Spares (fun id => call = .discardClass id) reflection after := by
    refine ⟨fun id descriptor live _ => classes id descriptor live, fun _ parent _ => apart parent,
      fun id reference target => ?_⟩
    rw [ElementMemo.lookup?, targets]
    exact ⟨fun found => ⟨apart id, found⟩, And.right⟩
  cases call with
  | registerClass definition =>
    simp only [Reflection.perform, Reflection.registerClass]
    cases registered : reflection.classes.register definition with
    | error fault => exact adds (by simp) (fun _ _ live => live) rfl
    | ok made => exact adds (by simp) (fun _ _ => formed.get?_register_of_get? registered) rfl
  | discardClass gone =>
    refine ⟨fun id descriptor live stays => ?_, ?_, fun id reference target => ?_⟩
    · have different : id ≠ gone := fun same => stays (same ▸ rfl)
      exact (formed.get?_discard_of_ne gone different).trans live
    · rintro child parent below ⟨⟩
      exact allowed child below
    · refine ElementMemo.lookup?_forgetTargets_eq_some.trans (and_congr_left fun _ => ?_)
      exact not_congr ⟨fun same => same ▸ rfl, fun same => by cases same; rfl⟩
  | declare declared =>
    simp only [Reflection.perform, Reflection.declare]
    split <;> exact adds (by simp) (fun _ _ live => live) rfl
  | locateClass located =>
    simp only [Reflection.perform, Reflection.locateClass]
    split <;> exact adds (by simp) (fun _ _ live => live) rfl
  | record decoration => exact adds (by simp) (fun _ _ live => live) rfl
  | resolve element => exact absurd rfl (idle element)
  | ensure | forgetTargets | forgetLocations => exact whole.elim

/-- A target goes on answering for an element until the class of the element is discarded. -/
theorem Sound.answers_perform (sound : reflection.Sound) (whole : call.Whole)
    (allowed : reflection.Allows call) (apart : call ≠ .discardClass element.owner)
    (answers : reflection.Answers element target) :
    (reflection.perform call).Answers element target := by
  -- Resolving is the one call that remembers targets; all others spare those that are not
  -- discarded.
  by_cases resolves : ∃ wanted, call = .resolve wanted
  · obtain ⟨wanted, rfl⟩ := resolves
    exact answers.resolve sound
  · have spares := sound.spares whole allowed (not_exists.mp resolves)
    exact spares.answers sound.classes.tended.rooted apart answers

/-- Reflection in which every target is joined to others, and no two elements share one. -/
structure Joined (reflection : Reflection β) : Prop where
  sound : reflection.Sound
  bracketless : reflection.classes.Bracketless
  elements : reflection.elements.Joined reflection.classes

/-- In reflection on nothing there are no targets. -/
theorem joined_empty : (empty : Reflection β).Joined where
  -- There are no classes, and nothing is remembered.
  sound := sound_empty
  bracketless _ _ found := absurd (ClassTable.wellFormed_empty.get?_eq_some.mp found)
    NamedArena.not_holds_empty
  elements _ _ _ found := by contradiction

namespace Joined

/-- A call that gives no method a name with a closing bracket leaves no class with such a method. -/
theorem bracketless_perform (joined : reflection.Joined) (bracketless : call.Bracketless) :
    (reflection.perform call).classes.Bracketless := by
  -- Only registering a class brings new names.
  have formed := joined.sound.settled.formed
  cases call with
  | registerClass definition =>
    simp only [Reflection.perform, Reflection.registerClass]
    split
    · next registered =>
      intro id descriptor live
      rcases formed.get?_of_get?_register registered live with earlier | rfl
      · exact joined.bracketless earlier
      · exact bracketless
    · exact joined.bracketless
  | discardClass gone =>
    intro id descriptor live
    exact joined.bracketless (formed.get?_of_get?_discard live)
  | declare | locateClass | ensure =>
    simp only [Reflection.perform, Reflection.declare, Reflection.locateClass]
    split <;> exact joined.bracketless
  | resolve | record | forgetTargets | forgetLocations => exact joined.bracketless

/-- Every call through reflection leaves targets joined. -/
theorem perform (joined : reflection.Joined) (whole : call.Whole)
    (allowed : reflection.Allows call) (bracketless : call.Bracketless) :
    (reflection.perform call).Joined := by
  -- Resolving links what it remembers; the other calls spare what there is.
  refine ⟨joined.sound.perform allowed, joined.bracketless_perform bracketless, ?_⟩
  by_cases resolves : ∃ wanted, call = .resolve wanted
  · obtain ⟨wanted, rfl⟩ := resolves
    simp only [Reflection.perform, Reflection.resolve]
    rcases ran : (wanted.resolve reflection.classes).run.run reflection.elements with
      ⟨result, elements⟩
    have rooted := joined.sound.classes.tended.rooted
    exact (Element.joins_resolve rooted wanted joined.elements ran).1
  · have spares := joined.sound.spares whole allowed (not_exists.mp resolves)
    exact spares.joined joined.sound joined.elements

end Joined

namespace Leads

/-- Resolving an element leads from one state to the next. -/
theorem resolve (leads : Leads kept before after) (element : Element) :
    Leads kept before (after.resolve element).2 :=
  -- Resolving is one call more.
  leads.call (show ReflectionCall.Whole (.resolve element) from trivial) trivial trivial nofun

/-- Calls that lead on from where others have led keep what both keep. -/
theorem trans {fewer : List ClassId} (first : Leads fewer before between)
    (second : Leads kept between after) (part : fewer ⊆ kept) : Leads fewer before after := by
  -- The induction is on the later calls, and so it is on the calls for what is led to.
  induction second with
  | refl => exact first
  | call _ whole allowed bracketless keeps first =>
    exact first.call whole allowed bracketless fun id member => keeps id (part member)

/-- What is led to from joined targets is joined. -/
theorem joined (leads : Leads kept before after) (joined : before.Joined) : after.Joined := by
  -- Each call leaves targets linked.
  induction leads with
  | refl => exact joined
  | call _ whole allowed bracketless _ joined => exact joined.perform whole allowed bracketless

/-- What answers for an element goes on answering if the class of the element is kept. -/
theorem answers (leads : Leads kept before after) (joined : before.Joined)
    (member : element.owner ∈ kept) (answers : before.Answers element target) :
    after.Answers element target := by
  -- No call on the way discards the owner.
  induction leads with
  | refl => exact answers
  | call leads whole allowed _ keeps answers =>
    exact (leads.joined joined).sound.answers_perform whole allowed (keeps _ member) answers

end Leads

/-- A target is of an element and is the one that resolving the element finds, at any time before
and, without making anything, at any time to come, as long as the element's class is not
discarded. -/
structure Denotes (reflection : Reflection β) (element : Element) (target : Target) : Prop where
  carries : target.element = element
  before : ∀ ⦃start other⦄, Leads [] empty start → (start.resolve element).1 = .ok other →
    Leads [element.owner] (start.resolve element).2 reflection → other = target
  after : ∀ ⦃finish⦄, Leads [element.owner] reflection finish →
    finish.resolve element = (.ok target, finish)

/-- The links of a target are those of its element: the ancestors of a class, the class of a member
and the nearest class that declares it, and the method of a parameter. -/
inductive Linked (reflection : Reflection β) : Element → Target → Prop where
  | whole {id : ClassId} {target : Target} {visited : List Target} (parent : target.parent? = none)
      (declaring : target.declaringClass = target) (visits : target.Visits visited)
      (ancestors : List.Forall₂ (fun passed => reflection.Denotes (.ofClass passed))
        (reflection.classes.ancestry id) visited) : Linked reflection (.ofClass id) target
  | member {id declaring : ClassId} {name : String} {target classTarget : Target}
      (parent : target.parent? = some classTarget)
      (parentDenotes : reflection.Denotes (.ofClass id) classTarget)
      (nearest : reflection.classes.DeclaredBy name id declaring)
      (declaringDenotes : reflection.Denotes (.ofClass declaring) target.declaringClass)
      (parentClass : target.parentClass? = classTarget.parentClass?) :
      Linked reflection (.ofMember id name) target
  | parameter {id : ClassId} {name : String} {index : Nat} {target method : Target}
      (parent : target.parent? = some method) (kind : method.kind = .method)
      (parentDenotes : reflection.Denotes (.ofMember id name) method)
      (declaring : target.declaringClass = method.declaringClass)
      (parentClass : target.parentClass? = method.parentClass?) :
      Linked reflection (.ofParameter id name index) target

namespace Joined

/-- A target that answers for an element carries what the element names. -/
theorem element_eq (joined : reflection.Joined) (answers : reflection.Answers element target) :
    target.element = element := by
  -- Without a closing bracket in any name no two elements have one reference.
  refine (joined.sound.tells answers answers).carries.resolve_right ?_
  exact joined.bracketless.unspelled _ _

/-- A target that answers for an element is joined to others. -/
theorem links (joined : reflection.Joined) (answers : reflection.Answers element target) :
    target.Joined (reflection.elements.Answers reflection.classes) reflection.classes := by
  -- What is remembered is linked.
  obtain ⟨reference, _, found⟩ := answers
  exact joined.elements found

/-- The target of a class either has no parent class, as the class has no parent, or its parent
class is what answers for the parent. -/
theorem parentClass?_cases (joined : reflection.Joined)
    (answers : reflection.Answers (.ofClass id) target) :
    (target.parentClass? = none ∧ ∀ above, ¬ reflection.classes.ParentOf id above) ∨
      ∃ above parent, reflection.classes.ParentOf id above ∧
        reflection.Answers (.ofClass above) parent ∧ target.parentClass? = some parent := by
  -- The target of a class is a root or has a parent, as the class has.
  have carries := joined.element_eq answers
  have links := joined.links answers
  obtain rfl : target.owner.id = id := congrArg Element.owner carries
  cases target with
  | root => exact .inl ⟨rfl, links⟩
  | subclass owner location parent =>
    obtain ⟨above, below, answers⟩ := links
    exact .inr ⟨above, parent, below, answers, rfl⟩
  | method | property | parameter => cases congrArg Element.member carries

end Joined

/-- A target that answers for an element is what the element denotes. -/
theorem Leads.denotes (obtained : Leads [] empty reflection)
    (answers : reflection.Answers element target) : reflection.Denotes element target where
  -- What was given before is still remembered, and so it is the same; what is remembered now is
  -- given later.
  carries := (obtained.joined joined_empty).element_eq answers
  before start other earlier resolved leads := by
    have first := (earlier.joined joined_empty).sound.answers resolved
    have resolves := (earlier.resolve element).joined joined_empty
    have answers' := leads.answers resolves List.mem_cons_self first
    exact ElementMemo.Answers.unique answers' answers
  after finish leads := by
    have stays := leads.answers (obtained.joined joined_empty) List.mem_cons_self answers
    unfold Reflection.resolve
    rw [Element.run_resolve stays]

/-- The parent classes of a class's target are the targets of the class's ancestors. -/
theorem Leads.exists_visits (obtained : Leads [] empty reflection)
    (climbs : reflection.classes.Climbs id path)
    (answers : reflection.Answers (.ofClass id) target) :
    ∃ visited, target.Visits visited ∧
      List.Forall₂ (fun passed => reflection.Denotes (.ofClass passed)) path visited := by
  have joined := obtained.joined joined_empty
  -- The induction is on the way up; the target of each class links to that of the next.
  induction climbs generalizing target with
  | root live top =>
    have denotes := obtained.denotes answers
    obtain ⟨ends, _⟩ | ⟨above, _, ⟨held, live', below⟩, _⟩ := joined.parentClass?_cases answers
    · exact ⟨_, .last ends, .cons denotes .nil⟩
    · obtain rfl := Option.some.inj (live.symm.trans live')
      rw [top] at below
      contradiction
  | child live below climbs ih =>
    have denotes := obtained.denotes answers
    obtain ⟨_, top⟩ | ⟨above, parent, ⟨held, live', below'⟩, answers', goes⟩ :=
      joined.parentClass?_cases answers
    · exact absurd ⟨_, live, below⟩ (top _)
    · obtain rfl := Option.some.inj (live.symm.trans live')
      obtain rfl := Option.some.inj (below.symm.trans below')
      obtain ⟨visited, visits, ancestors⟩ := ih answers'
      exact ⟨_, .next goes visits, .cons denotes ancestors⟩

/-- What answers for an element is linked as the element is. -/
theorem Leads.linked (obtained : Leads [] empty reflection)
    (answers : reflection.Answers element target) : reflection.Linked element target := by
  have joined := obtained.joined joined_empty
  obtain rfl := joined.element_eq answers
  have links := joined.links answers
  have ⟨reference, ⟨descriptor, _, live, _⟩, found⟩ := answers
  obtain ⟨path, climbs⟩ := joined.sound.classes.tended.rooted live
  have recognised := joined.sound.recognises found
  cases target with
  | root owner location | subclass owner location above =>
    obtain ⟨visited, visits, ancestors⟩ := obtained.exists_visits climbs answers
    exact .whole rfl rfl visits (climbs.ancestry_eq ▸ ancestors)
  | method owner location key classTarget declaring
  | property owner location key classTarget declaring =>
    obtain ⟨classAnswers, declares⟩ := links
    obtain ⟨nearest, first⟩ := recognised.exists_declaringClass?
    rw [show reflection.classes.declaringClass? owner.id key = some nearest from first] at declares
    exact .member rfl (obtained.denotes classAnswers) (climbs.declaredBy first)
      (obtained.denotes declares) rfl
  | parameter owner location key index method =>
    have has : (reflection.classes.findMethod? owner.id key).isSome := by
      cases recognised with
      | parameter has => exact has
    have kind := joined.sound.kind_eq links (.method has) (joined.bracketless.unspelled _)
    refine .parameter rfl kind (obtained.denotes links) ?_ rfl
    -- A method has a declaring class, which is the parameter's as well.
    cases method with
    | method => rfl
    | root | subclass | property | parameter => cases kind

/-- The links of a target are the hierarchy: whatever is called before an element is resolved, and
whatever is called afterwards that does not discard the element's class, its target is what the
element denotes, and every link leads to what the linked element denotes. -/
theorem Leads.resolve_links (earlier : Leads [] empty start)
    (resolved : (start.resolve element).1 = .ok target)
    (later : Leads [element.owner] (start.resolve element).2 reflection) :
    reflection.Denotes element target ∧ reflection.Linked element target := by
  -- The target stays remembered on the way, and what is remembered denotes and is linked.
  have resolves := earlier.resolve element
  have answers := (earlier.joined joined_empty).sound.answers resolved
  have stays := later.answers (resolves.joined joined_empty) List.mem_cons_self answers
  have obtained := resolves.trans later (List.nil_subset _)
  exact ⟨obtained.denotes stays, obtained.linked stays⟩

/-- A parameter of an inherited method, resolved before the method: its links lead to the method
that is resolved afterwards, to the class below and to the one that declares the method. -/
theorem resolve_links_inherited :
    let base := { ClassTable.named "Base" with methods := Dictionary.ofList [("run", none)] }
    let child := { ClassTable.named "Child" with parent := some ⟨0⟩ }
    let start := (empty.perform (.registerClass base)).perform (.registerClass child)
    let element := Element.ofParameter ⟨1⟩ "run" 0
    let reflection := (start.resolve element).2.perform (.resolve (.ofMember ⟨1⟩ "run"))
    let top := Target.root ⟨⟨0⟩, "Base", "Base"⟩ (.ofClass ⟨0⟩)
    let owner : Owner := ⟨⟨1⟩, "Child", "Child"⟩
    let method := Target.method owner (.ofMethod ⟨1⟩ "run") "run"
      (.subclass owner (.ofClass ⟨1⟩) top) top
    let target := Target.parameter owner (.ofParameter ⟨1⟩ "run" 0) "run" 0 method
    Leads [] empty start ∧ (start.resolve element).1 = .ok target ∧
      Leads [element.owner] (start.resolve element).2 reflection ∧
      reflection.Denotes element target ∧ reflection.Linked element target := by
  -- Nothing is discarded on the way, and no name has a bracket.
  intro base child start element reflection top owner method target
  have named : ∀ name ∈ base.methods.keys, ']' ∉ name.toList := by decide
  have nameless : ∀ name ∈ child.methods.keys, ']' ∉ name.toList := by decide
  have earlier : Leads [] empty start :=
    .call (.call .refl trivial trivial named nofun) trivial trivial nameless nofun
  have resolved : (start.resolve element).1 = .ok target := by decide +kernel
  have later : Leads [element.owner] (start.resolve element).2 reflection := Leads.refl.resolve _
  exact ⟨earlier, resolved, later, earlier.resolve_links resolved later⟩

end Reflection

end AspectWeaving
