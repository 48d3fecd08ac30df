import AspectWeaving.Element.Resolution
import AspectWeaving.Proofs.Class.Lineage
import AspectWeaving.Proofs.Fallible

/-! Resolving elements: a target that has been made stays remembered under its class and its
reference, and the reference of a target tells which class it is on. -/

namespace AspectWeaving

variable {β α γ : Type} {classes : ClassTable β} {memo start before after : ElementMemo}
  {id : ClassId} {reference : String} {target : Target}

/-- A target's reference opens with the reference of its class, in brackets. -/
theorem Target.exists_reference_eq (target : Target) :
    ∃ rest, target.reference.toList =
      "c[".toList ++ (target.owner.reference.toList ++ ']' :: rest) := by
  unfold Target.reference Target.referenceOf
  -- Each kind of element has its own text behind the brackets of its class.
  cases target.kind
  · exact ⟨[], by simp⟩
  · exact ⟨(".m[" ++ target.key?.getD "" ++ "]" : String).toList, by simp⟩
  · exact ⟨(".p[" ++ target.key?.getD "" ++ "]" : String).toList, by simp⟩
  · exact ⟨(".m[" ++ target.key?.getD "" ++ "].a[" ++ toString (target.index?.getD 0) ++ "]" :
      String).toList, by simp⟩

/-- Where class references hold no closing bracket, targets with one reference are on classes with
one reference. -/
theorem Target.owner_reference_eq {other : Target} (closed : ']' ∉ target.owner.reference.toList)
    (closed' : ']' ∉ other.owner.reference.toList) (same : target.reference = other.reference) :
    target.owner.reference = other.owner.reference := by
  obtain ⟨rest, opens⟩ := target.exists_reference_eq
  obtain ⟨rest', opens'⟩ := other.exists_reference_eq
  -- Both references open with the same two characters, and then the bracket ends the class.
  rw [same, opens', List.append_cancel_left_eq] at opens
  exact String.toList_inj.mp ((Text.append_separator_inj closed' closed).mp opens).1.symm

/-- A target of a live class, known by that class's number and by its own reference. -/
structure Target.IsAt (target : Target) (classes : ClassTable β) (id : ClassId)
    (reference : String) : Prop where
  owner : target.owner.id = id
  reference : target.reference = reference
  live : ∃ descriptor, classes.get? id = some descriptor ∧
    descriptor.reference = target.owner.reference

/-- The element that a target is of. -/
def Target.element (target : Target) : Element :=
  ⟨target.owner.id, target.key?, target.index?⟩

namespace Element

/-- What an element of a class is known as: the class, a member that the class has, or a parameter
of a method that it has. -/
inductive KnownAs (classes : ClassTable β) : Element → ElementKind → Prop where
  | whole {owner : ClassId} : KnownAs classes (ofClass owner) .classType
  | method {owner : ClassId} {key : String} (has : (classes.findMethod? owner key).isSome) :
      KnownAs classes (ofMember owner key) .method
  | property {owner : ClassId} {key : String} (lacks : (classes.findMethod? owner key).isNone)
      (has : (classes.findProperty? owner key).isSome) :
      KnownAs classes (ofMember owner key) .property
  | parameter {owner : ClassId} {key : String} {index : Nat}
      (has : (classes.findMethod? owner key).isSome) :
      KnownAs classes (ofParameter owner key index) .parameter

/-- The kind of an element is what the element is known as. -/
theorem kindOn_eq_ok {element : Element} {descriptor : ClassDescriptor β} {kind : ElementKind} :
    element.kindOn classes descriptor = .ok kind ↔ element.KnownAs classes kind := by
  constructor
  · intro known
    obtain ⟨owner, member, index⟩ := element
    -- The cases are those of what the element names besides its class.
    match member, index with
    | none, none =>
      obtain rfl := Except.ok.inj known
      exact .whole
    | none, some index => contradiction
    | some key, index =>
      simp only [kindOn] at known
      split at known
      · next has =>
        obtain rfl := Except.ok.inj known
        cases index with
        | none => exact .method has
        | some index => exact .parameter has
      · next lacks =>
        split at known
        · next has =>
          obtain rfl := Except.ok.inj known
          simp only [Bool.and_eq_true, Option.isNone_iff_eq_none] at has
          obtain ⟨rfl, has⟩ := has
          exact .property (by simpa using lacks) has
        · contradiction
  · intro known
    cases known with
    | whole => rfl
    | method has => simp [kindOn, ofMember, has]
    | property lacks has => simp_all [kindOn, ofMember]
    | parameter has => simp [kindOn, ofParameter, has]

/-- An element of a live class is known by a reference, which is that of its class, with the member
and the parameter behind it. -/
def KnownBy (element : Element) (classes : ClassTable β) (reference : String) : Prop :=
  ∃ descriptor kind, classes.get? element.owner = some descriptor ∧ element.KnownAs classes kind ∧
    Target.referenceOf descriptor.reference kind (element.member.getD "") (element.index.getD 0) =
      reference

end Element

namespace ElementMemo

/-- Every remembered target is that of a live class, and remembered where it belongs. -/
def Fits (memo : ElementMemo) (classes : ClassTable β) : Prop :=
  ∀ ⦃id reference target⦄, memo.lookup? id reference = some target →
    target.IsAt classes id reference

/-- A target is remembered where it belongs. -/
def Knows (memo : ElementMemo) (target : Target) : Prop :=
  memo.lookup? target.owner.id target.reference = some target

/-- What was remembered still is. -/
def Grows (before after : ElementMemo) : Prop :=
  ∀ ⦃id reference target⦄, before.lookup? id reference = some target →
    after.lookup? id reference = some target

/-- A memo that remembers all that others do remembers what they do. -/
theorem Grows.trans {between : ElementMemo} (first : before.Grows between)
    (second : between.Grows after) : before.Grows after :=
  fun _ _ _ found => second (first found)

/-- Nothing is remembered at first. -/
theorem fits_empty : ElementMemo.empty.Fits classes := by
  -- Nothing is remembered.
  intro id reference target found
  contradiction

/-- Remembering a target changes what is found in one place. -/
theorem lookup?_remember (memo : ElementMemo) (id : ClassId) (reference : String)
    (target : Target) (asked : ClassId) (wanted : String) :
    (memo.remember id reference target).lookup? asked wanted =
      if asked = id ∧ wanted = reference then some target else memo.lookup? asked wanted := by
  simp only [lookup?, remember, Dictionary.get?_insert]
  -- Another class is looked up elsewhere.
  by_cases same : asked = id
  · subst same
    simp only [if_true, Option.bind_some, Dictionary.get?_insert, true_and]
    split
    · rfl
    · -- A class without targets so far has none under any other reference.
      cases memo.targets.get? asked <;> simp
  · simp only [same, false_and, if_false]

/-- Forgetting the targets of a class keeps those of the others. -/
theorem lookup?_forgetTargets (memo : ElementMemo) (id asked : ClassId) (wanted : String) :
    (memo.forgetTargets id).lookup? asked wanted =
      if asked = id then none else memo.lookup? asked wanted := by
  -- The targets of one class go.
  simp only [lookup?, forgetTargets, Dictionary.get?_erase]
  split <;> rfl

/-- A target that belongs where it is put can be remembered. -/
theorem Fits.remember (fits : memo.Fits classes) (isAt : target.IsAt classes id reference) :
    (memo.remember id reference target).Fits classes := by
  intro asked wanted found looked
  -- What is found is the new target in its place, or an older one.
  rw [lookup?_remember] at looked
  split at looked
  · next here =>
    obtain ⟨rfl, rfl⟩ := here
    obtain rfl := Option.some.inj looked
    exact isAt
  · exact fits looked

/-- The steps of resolving, whether or not it succeeds: a location is found for a known element, or
a target is made at its location and then remembered in a place that was free before. -/
inductive Resolves (classes : ClassTable β) : ElementMemo → ElementMemo → Prop where
  | refl (memo : ElementMemo) : Resolves classes memo memo
  | trans {before between after : ElementMemo} (first : Resolves classes before between)
      (second : Resolves classes between after) : Resolves classes before after
  | locate {memo : ElementMemo} {element : Element} {kind : ElementKind} {location : Location}
      {locations : LocationForest} (known : element.KnownAs classes kind)
      (ensured : memo.locations.ensure classes element.owner kind element.member element.index =
        .ok (location, locations)) :
      Resolves classes memo { memo with locations }
  | make {vacant memo : ElementMemo} {id : ClassId} {reference : String} {target : Target}
      {locations : LocationForest} (free : vacant.lookup? id reference = none)
      (isAt : target.IsAt classes id reference)
      (known : target.element.KnownAs classes target.kind)
      (ensured : vacant.locations.ensure classes id target.kind target.key? target.index? =
        .ok (target.location, locations))
      -- Other targets may be made on the way.
      (goes : Resolves classes { vacant with locations } memo) :
      Resolves classes vacant (memo.remember id reference target)

end ElementMemo

namespace Resolving

/-- From a memo on, a step keeps what is remembered and right, and its result is as wanted. -/
def Leaves (classes : ClassTable β) (step : Resolving α) (before : ElementMemo)
    (wanted : α → ElementMemo → Prop) : Prop :=
  before.Fits classes → ∀ ⦃result after⦄, step.run.run before = (result, after) →
    after.Fits classes ∧ before.Grows after ∧ ∀ value, result = .ok value → wanted value after

/-- From every memo that something holds of, a step leads to one that it holds of, and its result
is as wanted. -/
def Keeps (holds : ElementMemo → Prop) (step : Resolving α) (wanted : α → ElementMemo → Prop) :
    Prop :=
  ∀ ⦃before result after⦄, holds before → step.run.run before = (result, after) →
    holds after ∧ ∀ value, result = .ok value → wanted value after

variable {wanted : α → ElementMemo → Prop} {last : γ → ElementMemo → Prop}
  {holds : ElementMemo → Prop}

/-- A second step goes on from what the first one has left. -/
theorem leaves_bind {first : Resolving α} {second : α → Resolving γ}
    (earlier : Leaves classes first before wanted)
    (later : ∀ value between, before.Grows between → wanted value between →
      Leaves classes (second value) between last) :
    Leaves classes (first >>= second) before last := by
  intro fits result after ran
  -- Either the first step has a result to go on with, or its fault is the end.
  obtain ⟨value, between, made, goes⟩ | ⟨fault, failed, rfl⟩ := Fallible.run_bind_eq.mp ran
  · obtain ⟨fits, grows, good⟩ := earlier fits made
    obtain ⟨fits, grows', good'⟩ := later value between grows (good value rfl) fits goes
    exact ⟨fits, grows.trans grows', good'⟩
  · -- What the first step has remembered stays remembered.
    obtain ⟨fits, grows, _⟩ := earlier fits failed
    exact ⟨fits, grows, fun _ same => by contradiction⟩

/-- A result alone changes nothing. -/
theorem leaves_pure {value : α} (good : wanted value before) :
    Leaves classes (pure value) before wanted := by
  -- Nothing is done.
  intro fits result after ran
  obtain ⟨rfl, rfl⟩ := Fallible.run_pure_eq.mp ran
  refine ⟨fits, fun _ _ _ found => found, fun given same => ?_⟩
  cases same
  exact good

/-- Looking at a result gives it and changes nothing. -/
theorem run_ofExcept (outcome : Except WeavingError α) :
    (ofExcept outcome).run.run before = (outcome, before) := by cases outcome <;> rfl

/-- Looking at a result leaves what it is. -/
theorem leaves_ofExcept (outcome : Except WeavingError α) :
    Leaves classes (ofExcept outcome) before fun value _ => outcome = .ok value := by
  -- Nothing is done, whatever the outcome is.
  intro fits result after ran
  rw [run_ofExcept] at ran
  cases ran
  exact ⟨fits, fun _ _ _ found => found, fun _ same => same⟩

/-- What a first step has kept, a second one can go on with. -/
theorem keeps_bind {first : Resolving α} {second : α → Resolving γ}
    (earlier : Keeps holds first wanted)
    (later : ∀ value between, wanted value between → Keeps holds (second value) last) :
    Keeps holds (first >>= second) last := by
  intro before result after right ran
  -- Either the first step has a result to go on with, or its fault is the end.
  obtain ⟨value, between, made, goes⟩ | ⟨fault, failed, rfl⟩ := Fallible.run_bind_eq.mp ran
  · obtain ⟨right, good⟩ := earlier right made
    exact later value between (good value rfl) right goes
  · obtain ⟨right, _⟩ := earlier right failed
    exact ⟨right, fun _ same => by contradiction⟩

/-- Less may be wanted of a result. -/
theorem Keeps.imp {weaker : α → ElementMemo → Prop} {step : Resolving α}
    (keeps : Keeps holds step wanted)
    (enough : ∀ value memo, wanted value memo → weaker value memo) : Keeps holds step weaker := by
  -- The weaker wish is granted with the stronger one.
  intro before result after right ran
  obtain ⟨right, good⟩ := keeps right ran
  exact ⟨right, fun value same => enough value after (good value same)⟩

/-- A result alone keeps everything. -/
theorem keeps_pure {value : α} (good : ∀ memo, wanted value memo) :
    Keeps holds (pure value) wanted := by
  -- Nothing is done.
  intro before result after right ran
  obtain ⟨rfl, rfl⟩ := Fallible.run_pure_eq.mp ran
  refine ⟨right, fun given same => ?_⟩
  cases same
  exact good _

/-- A step that fails keeps everything. -/
theorem keeps_throw (fault : WeavingError) : Keeps holds (throw fault : Resolving α) wanted := by
  -- Nothing is done, and nothing is given.
  intro before result after right ran
  cases ran
  exact ⟨right, fun _ same => by contradiction⟩

/-- Looking at a result keeps everything. -/
theorem keeps_ofExcept (outcome : Except WeavingError α) :
    Keeps holds (ofExcept outcome) fun value _ => outcome = .ok value := by
  -- Nothing is done, whatever the outcome is.
  intro before result after right ran
  rw [run_ofExcept] at ran
  cases ran
  exact ⟨right, fun _ same => same⟩

/-- What resolving keeps of a memo, with locations where they should be: it still holds when a
location has been made, and when a target has been remembered in a place that was free. -/
structure Law (classes : ClassTable β) (sited : ClassId → Location → Prop)
    (holds : ElementMemo → Prop) : Prop where
  ensure : ∀ {memo id kind member index location locations}, holds memo →
    memo.locations.ensure classes id kind member index = .ok (location, locations) →
    sited id location ∧ holds { memo with locations }
  remember : ∀ {vacant memo id reference target}, holds vacant →
    vacant.lookup? id reference = none → holds memo → target.IsAt classes id reference →
    target.element.KnownAs classes target.kind → sited id target.location →
    holds (memo.remember id reference target)

/-- Resolving keeps what a law says. -/
theorem Law.keeps {sited : ClassId → Location → Prop} (law : Law classes sited holds)
    (resolved : before.Resolves classes after) (right : holds before) : holds after := by
  -- The induction is on the steps; what is made on the way keeps it before the target is
  -- remembered.
  induction resolved with
  | refl => exact right
  | trans _ _ first second => exact second (first right)
  | locate known ensured => exact (law.ensure right ensured).2
  | make free isAt known ensured goes ih =>
    obtain ⟨sited, kept⟩ := law.ensure right ensured
    exact law.remember right free (ih kept) isAt known sited

end Resolving

namespace Element

open Resolving

/-- A class is live if looking it up succeeds. -/
theorem get?_of_get_eq_ok {descriptor : ClassDescriptor β}
    (found : classes.get id = .ok descriptor) :
    classes.get? id = some descriptor := by
  -- A class that is gone would be a fault.
  unfold ClassTable.get at found
  split at found
  · next live => rw [live, Except.ok.inj found]
  · contradiction

/-- A class as targets on it show it: it is live and has this reference. -/
def OwnedBy (classes : ClassTable β) (owner : Owner) : Prop :=
  ∃ descriptor, classes.get? owner.id = some descriptor ∧ descriptor.reference = owner.reference

/-- Finding a location changes the locations if there is one, and nothing else. -/
theorem run_ensureLocation (element : Element) (kind : ElementKind) :
    (element.ensureLocation classes kind).run.run before =
      match before.locations.ensure classes element.owner kind element.member element.index with
      | .ok (location, locations) => (.ok location, { before with locations })
      | .error fault => (.error fault, before) := by
  -- The places are looked at once, and put back if they have grown.
  unfold ensureLocation
  cases made : before.locations.ensure classes element.owner kind element.member element.index
  all_goals exact Fallible.run_bind_eq.mpr (.inl ⟨before, before, rfl, by simp [made]; rfl⟩)

/-- A location that is found for a known element is a step of resolving. -/
theorem resolves_ensureLocation {element : Element} {kind : ElementKind}
    (known : element.KnownAs classes kind) :
    Keeps (start.Resolves classes) (element.ensureLocation classes kind) fun _ _ => True := by
  -- A place is asked for, which is one of the steps of resolving.
  intro before result after right ran
  rw [run_ensureLocation] at ran
  split at ran
  · next made =>
    cases ran
    exact ⟨right.trans (.locate known made), fun _ _ => trivial⟩
  · cases ran
    exact ⟨right, fun _ _ => trivial⟩

/-- A target that is asked for is remembered from then on, whether or not it had to be made. -/
theorem resolves_remembered (element : Element) {kind : ElementKind}
    {rest : Location → Resolving Target} (known : element.KnownAs classes kind)
    (makes : ∀ location (start : ElementMemo), Keeps (start.Resolves classes) (rest location)
      fun target _ => target.IsAt classes element.owner reference ∧ target.element = element ∧
        target.kind = kind ∧ target.location = location) :
    Keeps (start.Resolves classes)
      (remembered element.owner reference (element.ensureLocation classes kind >>= rest))
      fun target memo => memo.lookup? element.owner reference = some target := by
  intro before result after right ran
  obtain ⟨memo, between, ⟨⟩, goes⟩ | ⟨_, ⟨⟩, _⟩ := Fallible.run_bind_eq.mp ran
  -- A target that is remembered is given again, and nothing is made.
  cases free : before.lookup? element.owner reference with
  | some target =>
    rw [free] at goes
    obtain ⟨rfl, rfl⟩ := Fallible.run_pure_eq.mp goes
    refine ⟨right, fun given same => ?_⟩
    cases same
    exact free
  | none =>
    rw [free] at goes
    obtain ⟨target, between, made, ends⟩ | ⟨fault, failed, rfl⟩ := Fallible.run_bind_eq.mp goes
    · -- The location has been found, and the target has been made from there on.
      obtain ⟨location, located, found, finishes⟩ | ⟨_, _, ⟨⟩⟩ := Fallible.run_bind_eq.mp made
      rw [run_ensureLocation] at found
      split at found
      · next ensured =>
        cases found
        obtain ⟨later, good⟩ := makes location _ (.refl _) finishes
        obtain ⟨isAt, rfl, rfl, rfl⟩ := good target rfl
        cases ends
        refine ⟨right.trans (.make free isAt known ensured later), fun given same => ?_⟩
        cases same
        exact (ElementMemo.lookup?_remember ..).trans (if_pos ⟨rfl, rfl⟩)
      · cases found
    · have kept := keeps_bind (resolves_ensureLocation known) (fun location _ _ =>
        (makes location start).imp fun _ _ _ => trivial) right failed
      exact ⟨kept.1, fun _ same => by contradiction⟩

/-- The target of a class is remembered as the class is registered now. -/
theorem resolves_resolveClass (bound : Nat) (id : ClassId) :
    Keeps (start.Resolves classes) (resolveClass classes bound id) fun target memo =>
      ∃ descriptor, classes.get? id = some descriptor ∧
        memo.lookup? id (Target.referenceOf descriptor.reference .classType "" 0) =
          some target := by
  -- The induction is on how many ancestors may still be visited.
  induction bound generalizing id start with
  | zero => exact keeps_throw _
  | succ bound ih =>
    unfold resolveClass
    refine keeps_bind (keeps_ofExcept _) fun descriptor _ found => ?_
    have live := get?_of_get_eq_ok found
    refine (resolves_remembered (ofClass id) .whole fun location start => ?_).imp
      fun target memo looked => ⟨descriptor, live, looked⟩
    cases descriptor.parent with
    | none => exact keeps_pure fun _ => ⟨⟨rfl, rfl, descriptor, live, rfl⟩, rfl, rfl, rfl⟩
    | some parent =>
      refine keeps_bind (ih parent) fun above _ _ => ?_
      exact keeps_pure fun _ => ⟨⟨rfl, rfl, descriptor, live, rfl⟩, rfl, rfl, rfl⟩

/-- The target of a member is remembered. -/
theorem resolves_resolveMember {owner : Owner} (owned : OwnedBy classes owner)
    {kind : ElementKind} {key : String} (known : (ofMember owner.id key).KnownAs classes kind) :
    Keeps (start.Resolves classes) (resolveMember classes owner kind key) fun target memo =>
      memo.lookup? owner.id (Target.referenceOf owner.reference kind key 0) = some target := by
  refine resolves_remembered _ known fun location start => ?_
  refine keeps_bind (resolves_resolveClass _ _) fun classTarget _ _ => ?_
  dsimp only
  split
  -- The class declares the member itself, or one of its ancestors does.
  case' isTrue => rw [pure_bind]
  case' isFalse => refine keeps_bind (resolves_resolveClass _ _) fun declaring _ _ => ?_
  all_goals
    cases known with
    | method has => exact keeps_pure fun _ => ⟨⟨rfl, rfl, owned⟩, rfl, rfl, rfl⟩
    | property lacks has => exact keeps_pure fun _ => ⟨⟨rfl, rfl, owned⟩, rfl, rfl, rfl⟩

/-- The target of a parameter is remembered. -/
theorem resolves_resolveParameter {owner : Owner} (owned : OwnedBy classes owner) {key : String}
    (has : (classes.findMethod? owner.id key).isSome) (index : Nat) :
    Keeps (start.Resolves classes) (resolveParameter classes owner key index)
      fun target memo =>
        memo.lookup? owner.id (Target.referenceOf owner.reference .parameter key index) =
          some target := by
  -- The parameter belongs to its method, which is resolved first.
  refine resolves_remembered (ofParameter owner.id key index) (.parameter has)
    fun location start => ?_
  refine keeps_bind (resolves_resolveMember owned (.method has)) fun method _ _ => ?_
  exact keeps_pure fun _ => ⟨⟨rfl, rfl, owned⟩, rfl, rfl, rfl⟩

/-- The target that an element names is remembered under the reference of the element. -/
theorem resolves_resolve (element : Element) :
    Keeps (start.Resolves classes) (element.resolve classes) fun target memo =>
      ∃ reference, element.KnownBy classes reference ∧
        memo.lookup? element.owner reference = some target := by
  unfold resolve
  refine keeps_bind (keeps_ofExcept _) fun descriptor _ found => ?_
  have live := get?_of_get_eq_ok found
  -- The owner of the target is the class that the element is on.
  have owned : OwnedBy classes ⟨element.owner, descriptor.name, descriptor.reference⟩ :=
    ⟨descriptor, live, rfl⟩
  refine keeps_bind (keeps_ofExcept _) fun kind _ known => ?_
  -- The cases are those of what the element is known as.
  cases kindOn_eq_ok.mp known with
  | whole =>
    refine (resolves_resolveClass _ _).imp fun target memo looked => ?_
    obtain ⟨held, live, looked⟩ := looked
    exact ⟨_, ⟨held, _, live, .whole, rfl⟩, looked⟩
  | method has =>
    exact (resolves_resolveMember owned (.method has)).imp fun target memo looked =>
      ⟨_, ⟨descriptor, _, live, .method has, rfl⟩, looked⟩
  | property lacks has =>
    exact (resolves_resolveMember owned (.property lacks has)).imp fun target memo looked =>
      ⟨_, ⟨descriptor, _, live, .property lacks has, rfl⟩, looked⟩
  | parameter has =>
    exact (resolves_resolveParameter owned has _).imp fun target memo looked =>
      ⟨_, ⟨descriptor, _, live, .parameter has, rfl⟩, looked⟩

/-- What a law says is kept by resolving, and the target is remembered under the element's
reference. -/
theorem keeps_resolve {sited : ClassId → Location → Prop} {holds : ElementMemo → Prop}
    (law : Law classes sited holds) (element : Element) :
    Keeps holds (element.resolve classes) fun target memo =>
      ∃ reference, element.KnownBy classes reference ∧
        memo.lookup? element.owner reference = some target := by
  -- What resolving does is a sequence of steps that the law speaks of.
  intro before result after right ran
  obtain ⟨resolved, looked⟩ := resolves_resolve element (.refl before) ran
  exact ⟨law.keeps resolved right, looked⟩

/-- Resolving remembers targets where they belong, and forgets none. -/
theorem law_fits_grows (before : ElementMemo) :
    Law classes (fun _ _ => True) fun memo => memo.Fits classes ∧ before.Grows memo where
  -- Targets are looked up without the locations.
  ensure right _ := ⟨trivial, right⟩
  remember {vacant memo id reference target} earlier free right isAt _ _ := by
    refine ⟨right.1.remember isAt, fun asked wanted known found => ?_⟩
    -- The place was free, so no target that was there before is overwritten.
    rw [ElementMemo.lookup?_remember, if_neg]
    · exact right.2 found
    · rintro ⟨rfl, rfl⟩
      rw [earlier.2 found] at free
      contradiction

/-- A target that is on a class and remembered. -/
def Found (id : ClassId) (target : Target) (memo : ElementMemo) : Prop :=
  target.owner.id = id ∧ memo.Knows target

/-- The target that an element names is on the element's class and remembered. -/
theorem leaves_resolve (element : Element) (before : ElementMemo) :
    Leaves classes (element.resolve classes) before (Found element.owner) := by
  -- The law says that targets fit, and that none is lost.
  intro fits result after ran
  obtain ⟨⟨fits, grows⟩, looked⟩ :=
    keeps_resolve (law_fits_grows before) element ⟨fits, fun _ _ _ found => found⟩ ran
  refine ⟨fits, grows, fun target same => ?_⟩
  obtain ⟨reference, _, found⟩ := looked target same
  obtain ⟨owner, rfl, _⟩ := fits found
  exact ⟨owner, by rwa [ElementMemo.Knows, owner]⟩

end Element

end AspectWeaving
