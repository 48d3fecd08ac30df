import AspectWeaving.Proofs.Element.Identity
import AspectWeaving.Proofs.Element.Success

/-! Targets that are remembered are joined to each other: whatever has been resolved before, what a
target links to is what is remembered for its class, its parent class or its method. -/

namespace AspectWeaving

variable {β α γ : Type} {classes : ClassTable β} {id : ClassId} {path : List ClassId}
  {element : Element} {reference : String} {target : Target}

/-- The parent of a class is on the way up from the class. -/
theorem ClassTable.Climbs.mem_of_parentOf (climbs : classes.Climbs id path) {above : ClassId}
    (below : classes.ParentOf id above) : above ∈ path := by
  -- A class has one parent, and the way goes on with it.
  obtain ⟨descriptor, live, parentage⟩ := below
  cases climbs with
  | root live' top =>
    obtain rfl := Option.some.inj (live.symm.trans live')
    rw [parentage] at top
    contradiction
  | child live' parentage' further =>
    obtain rfl := Option.some.inj (live.symm.trans live')
    obtain rfl := Option.some.inj (parentage.symm.trans parentage')
    exact List.mem_cons_of_mem _ further.mem_self

/-- A target links to what answers for its parent class, or for its class and the one that declares
it, or for its method. -/
def Target.Joined (answers : Element → Target → Prop) (classes : ClassTable β) : Target → Prop
  | .root owner _ => ∀ above, ¬ classes.ParentOf owner.id above
  | .subclass owner _ parent =>
    ∃ above, classes.ParentOf owner.id above ∧ answers (.ofClass above) parent
  | .method owner _ key classTarget declaring | .property owner _ key classTarget declaring =>
    answers (.ofClass owner.id) classTarget ∧
      answers (.ofClass ((classes.declaringClass? owner.id key).getD owner.id)) declaring
  | .parameter owner _ key _ methodTarget => answers (.ofMember owner.id key) methodTarget

/-- A target stays joined to what goes on answering. -/
theorem Target.Joined.imp {answers answers' : Element → Target → Prop}
    (joined : target.Joined answers classes)
    (keeps : ∀ ⦃element other⦄, answers element other → answers' element other) :
    target.Joined answers' classes := by
  -- Each kind of target links to elements that are answered.
  cases target with
  | root owner location => exact joined
  | subclass owner location parent =>
    obtain ⟨above, below, answered⟩ := joined
    exact ⟨above, below, keeps answered⟩
  | method | property => exact ⟨keeps joined.1, keeps joined.2⟩
  | parameter => exact keeps joined

/-- A target stays joined if the classes on the way up from its own stay as they are. -/
theorem Target.Joined.of_climbs {after : ClassTable β} {answers answers' : Element → Target → Prop}
    (joined : target.Joined answers classes) (climbs : classes.Climbs target.owner.id path)
    (agree : ∀ passed ∈ path, after.get? passed = classes.get? passed)
    (keeps : ∀ ⦃element other⦄, element.owner ∈ path → answers element other →
      answers' element other) : target.Joined answers' after := by
  -- The cases are the kinds of targets; all that they link to belongs to classes on the way.
  have own := agree _ climbs.mem_self
  cases target with
  | root owner location =>
    rintro above ⟨descriptor, live, below⟩
    exact joined above ⟨descriptor, own.symm.trans live, below⟩
  | subclass owner location parent =>
    obtain ⟨above, below, answered⟩ := joined
    obtain ⟨descriptor, live, parentage⟩ := below
    exact ⟨above, ⟨descriptor, own.trans live, parentage⟩,
      keeps (climbs.mem_of_parentOf ⟨descriptor, live, parentage⟩) answered⟩
  | method owner _ key _ _ | property owner _ key _ _ =>
    have lineage : after.lineage owner.id = classes.lineage owner.id := climbs.lineage_eq agree
    have same : after.declaringClass? owner.id key = classes.declaringClass? owner.id key := by
      rw [ClassTable.declaringClass?, lineage]
      rfl
    refine ⟨keeps climbs.mem_self joined.1, ?_⟩
    rw [same]
    exact keeps (Element.declaringClass_mem climbs key) joined.2
  | parameter => exact keeps climbs.mem_self joined

namespace ElementMemo

variable {before after memo : ElementMemo}

/-- A target is remembered under the reference of an element. -/
def Answers (memo : ElementMemo) (classes : ClassTable β) (element : Element) (target : Target) :
    Prop :=
  ∃ reference, element.KnownBy classes reference ∧
    memo.lookup? element.owner reference = some target

/-- Every remembered target links to what is remembered. -/
def Joined (memo : ElementMemo) (classes : ClassTable β) : Prop :=
  ∀ ⦃id reference target⦄, memo.lookup? id reference = some target →
    target.Joined (memo.Answers classes) classes

/-- Nothing is remembered in a new place but under the references of the given elements. -/
def KeptBut (before after : ElementMemo) (classes : ClassTable β) (made : Element → Prop) : Prop :=
  ∀ ⦃id reference⦄, (∀ element, made element → element.owner = id →
    ¬ element.KnownBy classes reference) → after.lookup? id reference = before.lookup? id reference

/-- What answers goes on answering in a memo that has grown. -/
theorem Answers.grow (answers : before.Answers classes element target)
    (grows : before.Grows after) : after.Answers classes element target := by
  -- What is remembered stays.
  obtain ⟨reference, known, found⟩ := answers
  exact ⟨reference, known, grows found⟩

/-- One target answers for an element. -/
theorem Answers.unique {other : Target} (answers : memo.Answers classes element target)
    (again : memo.Answers classes element other) : target = other := by
  -- An element has one reference, under which one target is remembered.
  obtain ⟨reference, known, found⟩ := answers
  obtain ⟨reference', known', found'⟩ := again
  obtain rfl := (known.reference_eq_iff known' rfl).mpr (.inl rfl)
  exact Option.some.inj (found.symm.trans found')

/-- A joined target may be remembered in a place that is free. -/
theorem Joined.remember (joined : memo.Joined classes)
    (free : memo.lookup? id reference = none)
    (links : target.Joined (memo.Answers classes) classes) :
    (memo.remember id reference target).Joined classes ∧
      memo.Grows (memo.remember id reference target) := by
  -- Nothing was remembered under the reference, so that nothing is lost.
  have grows : memo.Grows (memo.remember id reference target) := by
    intro asked wanted held found
    rw [lookup?_remember, if_neg]
    · exact found
    · rintro ⟨rfl, rfl⟩
      rw [free] at found
      contradiction
  -- The new target links to what was remembered before it.
  refine ⟨fun asked wanted held found => ?_, grows⟩
  rw [lookup?_remember] at found
  split at found
  · obtain rfl := Option.some.inj found
    exact links.imp fun _ _ answers => answers.grow grows
  · exact (joined found).imp fun _ _ answers => answers.grow grows

end ElementMemo

namespace Resolving

variable {made : Element → Prop} {wanted : α → ElementMemo → Prop}
  {last : γ → ElementMemo → Prop} {before : ElementMemo}

/-- From a memo on whose targets are joined, a step leaves one whose targets are, makes targets of
the given elements only, and its result is as wanted. -/
def Joins (classes : ClassTable β) (made : Element → Prop) (step : Resolving α)
    (before : ElementMemo) (wanted : α → ElementMemo → Prop) : Prop :=
  before.Joined classes → ∀ ⦃result after⦄, step.run.run before = (result, after) →
    after.Joined classes ∧ before.Grows after ∧ before.KeptBut after classes made ∧
      ∀ value, result = .ok value → wanted value after

/-- More may be made, and less be wanted of the result. -/
theorem Joins.imp {step : Resolving α} {more : Element → Prop} {weaker : α → ElementMemo → Prop}
    (joins : Joins classes made step before wanted)
    (covers : ∀ element, made element → more element)
    (enough : ∀ value memo, wanted value memo → weaker value memo) :
    Joins classes more step before weaker := by
  -- A step that has touched fewer elements has left more of them alone.
  intro joined result after ran
  obtain ⟨joined, grows, kept, good⟩ := joins joined ran
  refine ⟨joined, grows, fun id reference apart => kept fun element own => ?_,
    fun value same => enough value after (good value same)⟩
  exact apart element (covers element own)

/-- A second step goes on from what the first one has left. -/
theorem joins_bind {first : Resolving α} {second : α → Resolving γ}
    (earlier : Joins classes made first before wanted)
    (later : ∀ value between, before.Grows between → wanted value between →
      Joins classes made (second value) between last) :
    Joins classes made (first >>= second) before last := by
  intro joined result after ran
  -- Either the first step has a result to go on with, or its fault is the end.
  obtain ⟨value, between, ended, goes⟩ | ⟨fault, failed, rfl⟩ := Fallible.run_bind_eq.mp ran
  · obtain ⟨joined, grows, kept, good⟩ := earlier joined ended
    obtain ⟨joined, grows', kept', good'⟩ := later value between grows (good value rfl) joined goes
    exact ⟨joined, grows.trans grows', fun _ _ apart => (kept' apart).trans (kept apart), good'⟩
  · obtain ⟨joined, grows, kept, _⟩ := earlier joined failed
    exact ⟨joined, grows, kept, fun _ same => by contradiction⟩

/-- A result alone makes nothing. -/
theorem joins_pure {value : α} (good : wanted value before) :
    Joins classes made (pure value) before wanted := by
  -- Nothing is done.
  intro joined result after ran
  obtain ⟨rfl, rfl⟩ := Fallible.run_pure_eq.mp ran
  refine ⟨joined, fun _ _ _ found => found, fun _ _ _ => rfl, fun given same => ?_⟩
  cases same
  exact good

/-- A step that fails makes nothing. -/
theorem joins_throw (fault : WeavingError) :
    Joins classes made (throw fault : Resolving α) before wanted := by
  -- Nothing is done, and nothing is given.
  intro joined result after ran
  cases ran
  exact ⟨joined, fun _ _ _ found => found, fun _ _ _ => rfl, fun _ same => by contradiction⟩

/-- Looking at a result makes nothing. -/
theorem joins_ofExcept (outcome : Except WeavingError α) :
    Joins classes made (ofExcept outcome) before fun value _ => outcome = .ok value := by
  -- Nothing is done, whatever the outcome is.
  intro joined result after ran
  rw [run_ofExcept] at ran
  cases ran
  exact ⟨joined, fun _ _ _ found => found, fun _ _ _ => rfl, fun _ same => same⟩

/-- Finding a location makes no target. -/
theorem joins_ensureLocation (element : Element) (kind : ElementKind) :
    Joins classes made (element.ensureLocation classes kind) before fun _ _ => True := by
  intro joined result after ran
  rw [Element.run_ensureLocation] at ran
  -- Targets are looked up without the locations.
  split at ran <;> cases ran <;>
    exact ⟨joined, fun _ _ _ found => found, fun _ _ _ => rfl, fun _ _ => trivial⟩

variable (made) in
/-- A target that is asked for is made last, after those that it links to. -/
theorem joins_remembered {make : Resolving Target} (known : element.KnownBy classes reference)
    (apart : ∀ other, made other → other.owner = element.owner →
      ¬ other.KnownBy classes reference)
    (makes : Joins classes made make before fun target memo =>
      target.Joined (memo.Answers classes) classes) :
    Joins classes (fun other => other = element ∨ made other)
      (Element.remembered element.owner reference make) before fun target memo =>
        memo.Answers classes element target := by
  intro joined result after ran
  obtain ⟨memo, between, ⟨⟩, goes⟩ | ⟨_, ⟨⟩, _⟩ := Fallible.run_bind_eq.mp ran
  cases free : before.lookup? element.owner reference with
  | some target =>
    rw [free] at goes
    obtain ⟨rfl, rfl⟩ := Fallible.run_pure_eq.mp goes
    refine ⟨joined, fun _ _ _ found => found, fun _ _ _ => rfl, fun given same => ?_⟩
    cases same
    exact ⟨reference, known, free⟩
  | none =>
    rw [free] at goes
    obtain ⟨target, between, ended, ends⟩ | ⟨fault, failed, rfl⟩ := Fallible.run_bind_eq.mp goes
    · obtain ⟨joined, grows, kept, links⟩ := makes joined ended
      cases ends
      -- The place is free still, as only targets of other elements have been made.
      obtain ⟨joined, further⟩ := joined.remember ((kept apart).trans free) (links target rfl)
      refine ⟨joined, grows.trans further, fun id wanted alone => ?_, fun given same => ?_⟩
      · rw [ElementMemo.lookup?_remember, if_neg]
        · exact kept fun other own => alone other (.inr own)
        · rintro ⟨rfl, rfl⟩
          exact alone element (.inl rfl) rfl known
      · cases same
        exact ⟨reference, known, (ElementMemo.lookup?_remember ..).trans (if_pos ⟨rfl, rfl⟩)⟩
    · obtain ⟨joined, grows, kept, _⟩ := makes joined failed
      exact ⟨joined, grows, fun id wanted alone => kept fun other own => alone other (.inr own),
        fun _ same => by contradiction⟩

end Resolving

namespace Element

open Resolving

variable {before : ElementMemo} {owner : Owner} {key : String}

/-- A class shares its reference with no member and no parameter. -/
theorem not_clash_ofClass {other : Element} : ¬ (ofClass id).Clash classes other := by
  -- Only a method and a parameter can have one reference.
  rintro (spells | spells)
  · generalize same : ofClass id = method at spells
    cases spells
    cases congrArg Element.member same
  · generalize same : ofClass id = parameter at spells
    cases spells
    cases congrArg Element.member same

/-- A parameter shares its reference with another method than its own. -/
theorem not_clash_ofParameter {index : Nat} :
    ¬ (ofMember id key).Clash classes (ofParameter id key index) := by
  rintro (spells | spells)
  · generalize own : ofMember id key = method at spells
    generalize same : ofParameter id key index = parameter at spells
    cases spells with
    | @place _ key' index' _ _ =>
      -- The name of the other method is longer.
      have names := Option.some.inj (congrArg Element.member own)
      obtain rfl := Option.some.inj (congrArg Element.member same)
      have lengths := congrArg (fun name => name.toList.length) names
      simp [Target.placeName] at lengths
  · generalize same : ofParameter id key index = method at spells
    cases spells

/-- An element that is not the whole class has another reference than the class. -/
theorem not_knownBy_ofClass (known : element.KnownBy classes reference)
    (part : element.member ≠ none) {passed : ClassId}
    (same : (ofClass passed).owner = element.owner) :
    ¬ (ofClass passed).KnownBy classes reference := by
  -- A reference that both are known by is a clash, which a class has with nothing.
  intro whole
  rcases (whole.reference_eq_iff known same).mp rfl with rfl | clash
  · exact part rfl
  · exact not_clash_ofClass clash

/-- The target of a class that others are made before, which are those of other classes. -/
theorem joins_remembered_class {descriptor : ClassDescriptor β}
    (live : classes.get? id = some descriptor) {above : List ClassId} (apart : id ∉ above)
    {make : Resolving Target}
    (makes : Joins classes (fun element => ∃ passed ∈ above, element = ofClass passed) make before
      fun target memo => target.Joined (memo.Answers classes) classes) :
    Joins classes (fun element => ∃ passed ∈ id :: above, element = ofClass passed)
      (remembered id (Target.referenceOf descriptor.reference .classType "" 0) make) before
      fun target memo => memo.Answers classes (ofClass id) target := by
  -- The class is not among those above it, which have been resolved already.
  have known : (ofClass id).KnownBy classes
      (Target.referenceOf descriptor.reference .classType "" 0) :=
    ⟨descriptor, _, live, .whole, rfl⟩
  refine (joins_remembered _ known ?_ makes).imp ?_ fun _ _ answers => answers
  · rintro other ⟨passed, member, rfl⟩ same
    obtain rfl : passed = id := same
    exact absurd member apart
  · rintro other (rfl | ⟨passed, member, rfl⟩)
    · exact ⟨id, List.mem_cons_self, rfl⟩
    · exact ⟨passed, List.mem_cons_of_mem id member, rfl⟩

/-- Making the target of a class makes those of its ancestors, and no others. -/
theorem joins_resolveClass (climbs : classes.Climbs id path) (bound : Nat) :
    Joins classes (fun element => ∃ passed ∈ path, element = ofClass passed)
      (resolveClass classes bound id) before fun target memo =>
        memo.Answers classes (ofClass id) target := by
  -- The induction is on the way up; the targets of the classes further up are made before.
  induction climbs generalizing bound before with
  | @root id descriptor live top =>
    cases bound with
    | zero => exact joins_throw _
    | succ bound =>
      unfold resolveClass
      refine joins_bind (joins_ofExcept _) fun found between _ got => ?_
      obtain rfl := Option.some.inj (live.symm.trans (get?_of_get_eq_ok got))
      refine joins_remembered_class live List.not_mem_nil ?_
      refine joins_bind (joins_ensureLocation _ _) fun location _ _ _ => ?_
      rw [top]
      refine joins_pure ?_
      rintro above ⟨held, live', below⟩
      obtain rfl := Option.some.inj (live.symm.trans live')
      rw [top] at below
      contradiction
  | @child id parent descriptor path live below climbs ih =>
    cases bound with
    | zero => exact joins_throw _
    | succ bound =>
      have apart : id ∉ path :=
        (List.nodup_cons.mp (ClassTable.Climbs.child live below climbs).nodup).1
      unfold resolveClass
      refine joins_bind (joins_ofExcept _) fun found between _ got => ?_
      obtain rfl := Option.some.inj (live.symm.trans (get?_of_get_eq_ok got))
      refine joins_remembered_class live apart ?_
      refine joins_bind (joins_ensureLocation _ _) fun location _ _ _ => ?_
      rw [below]
      refine joins_bind (ih bound) fun above _ _ answers => ?_
      exact joins_pure ⟨parent, ⟨descriptor, live, below⟩, answers⟩

/-- The target of a class that is passed on the way up from another one. -/
theorem joins_resolveClass_of_mem (climbs : classes.Climbs id path) {passed : ClassId}
    (member : passed ∈ path) (bound : Nat) :
    Joins classes (fun element => ∃ passed ∈ path, element = ofClass passed)
      (resolveClass classes bound passed) before fun target memo =>
        memo.Answers classes (ofClass passed) target := by
  -- The way from a class further up is a part of the whole way.
  obtain ⟨rest, above, part⟩ := climbs.suffix member
  refine (joins_resolveClass above bound).imp ?_ fun _ _ answers => answers
  rintro other ⟨next, further, rfl⟩
  exact ⟨next, part.subset further, rfl⟩

/-- Making the target of a member makes those of its class and of classes further up. -/
theorem joins_resolveMember (climbs : classes.Climbs owner.id path) (owned : OwnedBy classes owner)
    {kind : ElementKind} (known : (ofMember owner.id key).KnownAs classes kind) :
    Joins classes
      (fun element => element = ofMember owner.id key ∨ ∃ passed ∈ path, element = ofClass passed)
      (resolveMember classes owner kind key) before fun target memo =>
        memo.Answers classes (ofMember owner.id key) target := by
  obtain ⟨descriptor, live, refers⟩ := owned
  have refersTo : (ofMember owner.id key).KnownBy classes
      (Target.referenceOf owner.reference kind key 0) :=
    ⟨descriptor, kind, live, known, by rw [refers]; rfl⟩
  refine joins_remembered _ refersTo ?_ ?_
  · rintro other ⟨passed, _, rfl⟩ same
    exact not_knownBy_ofClass refersTo (by simp [ofMember]) same
  · refine joins_bind (joins_ensureLocation _ _) fun location _ _ _ => ?_
    refine joins_bind (joins_resolveClass_of_mem climbs climbs.mem_self _)
      fun classTarget between _ answers => ?_
    dsimp only
    -- The class declares the member itself, or one of its ancestors does.
    split
    · next own =>
      rw [pure_bind]
      have links := And.intro answers (own.symm ▸ answers)
      cases known with
      | method has => exact joins_pure links
      | property lacks has => exact joins_pure links
    · refine joins_bind (joins_resolveClass_of_mem climbs (declaringClass_mem climbs key) _)
        fun declaring after grows declares => ?_
      have links := And.intro (answers.grow grows) declares
      cases known with
      | method has => exact joins_pure links
      | property lacks has => exact joins_pure links

/-- Making the target of a parameter makes those of its method, of its class and of classes further
up. -/
theorem joins_resolveParameter (climbs : classes.Climbs owner.id path)
    (owned : OwnedBy classes owner) (has : (classes.findMethod? owner.id key).isSome)
    (index : Nat) :
    Joins classes (fun _ => True) (resolveParameter classes owner key index) before
      fun target memo => memo.Answers classes (ofParameter owner.id key index) target := by
  -- Neither the method nor a class on the way has the reference of a parameter.
  have refersTo : (ofParameter owner.id key index).KnownBy classes
      (Target.referenceOf owner.reference .parameter key index) := by
    obtain ⟨descriptor, live, refers⟩ := owned
    exact ⟨descriptor, .parameter, live, .parameter has, by rw [refers]; rfl⟩
  refine (joins_remembered
    (fun element => element = ofMember owner.id key ∨ ∃ passed ∈ path, element = ofClass passed)
    refersTo ?_ ?_).imp (fun _ _ => trivial) fun _ _ answers => answers
  · rintro other (rfl | ⟨passed, _, rfl⟩) same
    · intro method
      rcases (method.reference_eq_iff refersTo rfl).mp rfl with same | clash
      · cases congrArg Element.index same
      · exact not_clash_ofParameter clash
    · exact not_knownBy_ofClass refersTo (by simp [ofParameter]) same
  -- The method is resolved first, and the parameter links to it.
  · refine joins_bind (joins_ensureLocation _ _) fun location _ _ _ => ?_
    refine joins_bind (joins_resolveMember climbs owned (.method has))
      fun method _ _ answers => ?_
    exact joins_pure answers

/-- Resolving an element leaves every remembered target joined to others, the new ones too. -/
theorem joins_resolve (rooted : classes.Rooted) (element : Element) :
    Joins classes (fun _ => True) (element.resolve classes) before fun target memo =>
      memo.Answers classes element target := by
  unfold resolve
  refine joins_bind (joins_ofExcept _) fun descriptor _ _ found => ?_
  have live := get?_of_get_eq_ok found
  have owned : OwnedBy classes ⟨element.owner, descriptor.name, descriptor.reference⟩ :=
    ⟨descriptor, live, rfl⟩
  obtain ⟨path, climbs⟩ := rooted live
  refine joins_bind (joins_ofExcept _) fun kind _ _ known => ?_
  -- The cases are those of what the element is known as.
  cases kindOn_eq_ok.mp known with
  | whole =>
    exact (joins_resolveClass climbs _).imp (fun _ _ => trivial) fun _ _ answers => answers
  | method has =>
    exact (joins_resolveMember climbs owned (.method has)).imp (fun _ _ => trivial)
      fun _ _ answers => answers
  | property lacks has =>
    exact (joins_resolveMember climbs owned (.property lacks has)).imp (fun _ _ => trivial)
      fun _ _ answers => answers
  | parameter has => exact joins_resolveParameter climbs owned has _

end Element

end AspectWeaving
