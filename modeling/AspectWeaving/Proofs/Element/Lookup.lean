import AspectWeaving.Proofs.Element.Coherence
import AspectWeaving.Proofs.Element.Success

/-! Looking the location of a member up: the answer is that of the nearest class on which the member
has been asked for, which need not be the nearest one that declares it. -/

namespace AspectWeaving

variable {β : Type} {classes : ClassTable β} {id passed : ClassId} {name : String}

/-- The classes that are strictly nearer to a class than one of its ancestors. -/
def ClassTable.nearerThan (classes : ClassTable β) (id above : ClassId) : List ClassId :=
  (classes.ancestry id).takeWhile (· ≠ above)

/-- The classes nearer than one are nearer than any that is not among them. -/
theorem ClassTable.nearerThan_subset {above nearest : ClassId}
    (beyond : nearest ∉ classes.nearerThan id above) :
    classes.nearerThan id above ⊆ classes.nearerThan id nearest := by
  -- A class that is not passed on the way up is further up itself.
  have others : ∀ nearer ∈ classes.nearerThan id above, decide (nearer ≠ nearest) = true :=
    fun nearer member => decide_eq_true fun same => beyond (same ▸ member)
  have split : classes.nearerThan id above ++ (classes.ancestry id).dropWhile (· ≠ above) =
      classes.ancestry id := List.takeWhile_append_dropWhile
  intro nearer member
  rw [nearerThan, ← split, List.takeWhile_append_of_pos others]
  exact List.mem_append_left _ member

/-- A class declares a member itself. -/
def ClassTable.Declares (classes : ClassTable β) (id : ClassId) (name : String) : Prop :=
  ∃ descriptor, classes.get? id = some descriptor ∧ descriptor.declares name = true

/-- The member that a target is of, or in, with the class that it is on. -/
def Target.named? (target : Target) : Option (ClassId × String) :=
  target.key?.map fun key => (target.owner.id, key)

namespace LocationForest

variable {forest grown : LocationForest} {kind : ElementKind} {member : Option String}
  {index : Option Nat} {location : Location}

/-- The entry of a member in the tree of a class. -/
def entry? (forest : LocationForest) (id : ClassId) (name : String) : Option MemberTree :=
  (forest.trees.get? id).bind fun tree => tree.members.get? name

/-- There is an entry for a member in the tree of a class. -/
def Lists (forest : LocationForest) (id : ClassId) (name : String) : Prop :=
  (forest.entry? id name).isSome = true

/-- Entries are looked for on a class and its ancestors, the nearest first. -/
theorem member?_eq_some {tree : MemberTree} :
    forest.member? classes id name = some tree ↔
      ∃ front above back, classes.ancestry id = front ++ above :: back ∧
        forest.entry? above name = some tree ∧ ∀ nearer ∈ front, ¬forest.Lists nearer name := by
  -- The look-up stops at the first class of the ancestry with an entry.
  simp only [Lists, Option.not_isSome_iff_eq_none]
  exact List.findSome?_eq_some_iff

/-- No entry is found exactly if there is none on the class and its ancestors. -/
theorem member?_eq_none :
    forest.member? classes id name = none ↔
      ∀ passed ∈ classes.ancestry id, ¬forest.Lists passed name := by
  -- The look-up passes all classes only if none has an entry.
  simp only [Lists, Option.not_isSome_iff_eq_none]
  exact List.findSome?_eq_none_iff

/-- The tree of a class that has not been asked for has no entries. -/
theorem get?_members_treeOf (forest : LocationForest) (id : ClassId)
    (descriptor : ClassDescriptor β) (name : String) :
    (forest.treeOf id descriptor).members.get? name = forest.entry? id name := by
  -- A tree that is missing has no entries.
  unfold treeOf entry?
  cases forest.trees.get? id <;> rfl

/-- The entries of a tree that is put in are found in it. -/
theorem entry?_insert (forest : LocationForest) (tree : ClassTree) :
    entry? ⟨forest.trees.insert id tree⟩ passed name =
      if passed = id then tree.members.get? name else forest.entry? passed name := by
  -- Only the entries of one tree can change.
  unfold entry?
  rw [Dictionary.get?_insert]
  split <;> rfl

/-- Finding a location adds an entry for the member that it is asked for, if there is one. -/
theorem lists_ensure
    (made : forest.ensure classes id kind member index = .ok (location, grown)) :
    grown.Lists passed name ↔ forest.Lists passed name ∨ passed = id ∧ member = some name := by
  unfold LocationForest.ensure at made
  cases live : classes.get id with
  | error fault => simp [live, Bind.bind, Except.bind] at made
  | ok descriptor =>
    simp only [live, Bind.bind, Except.bind, Pure.pure, Except.pure] at made
    have own := forest.get?_members_treeOf id descriptor
    -- Whatever is found is put into the tree of the class.
    have planted (key : String) (held : MemberTree) :
        Lists ⟨forest.trees.insert id { forest.treeOf id descriptor with
            members := (forest.treeOf id descriptor).members.insert key held }⟩ passed name ↔
          forest.Lists passed name ∨ passed = id ∧ some key = some name := by
      rw [Lists, entry?_insert, Dictionary.get?_insert, own, Lists]
      by_cases same : passed = id
      · by_cases named : name = key
        · simp [same, named]
        · simp [same, named, Ne.symm named]
      · simp [same]
    cases member with
    | none =>
      obtain ⟨_, rfl⟩ := Prod.mk.inj (Except.ok.inj made)
      rw [Lists, entry?_insert, own]
      by_cases same : passed = id <;> simp [same, Lists]
    | some key =>
      dsimp only at made
      split at made <;>
      · obtain ⟨_, rfl⟩ := Prod.mk.inj (Except.ok.inj made)
        exact planted key _

end LocationForest

/-- There are entries for some members only. -/
def ElementMemo.ListsOnly (memo : ElementMemo) (among : ClassId → String → Prop) : Prop :=
  ∀ ⦃id name⦄, memo.locations.Lists id name → among id name

namespace Element

open Resolving

variable {among : ClassId → String → Prop} {element : Element} {before after : ElementMemo}
  {target : Target}

/-- Finding the location of an element adds an entry for its member only. -/
theorem keeps_ensureLocation (kind : ElementKind)
    (own : ∀ key, element.member = some key → among element.owner key) :
    Keeps (ElementMemo.ListsOnly · among) (element.ensureLocation classes kind)
      fun _ _ => True := by
  -- The one entry that can be new is that of the element.
  intro before result after right ran
  rw [run_ensureLocation] at ran
  split at ran
  · next made =>
    cases ran
    refine ⟨fun passed name lists => ?_, fun _ _ => trivial⟩
    rcases (LocationForest.lists_ensure made).mp lists with earlier | ⟨rfl, named⟩
    · exact right earlier
    · exact own name named
  · cases ran
    exact ⟨right, fun _ _ => trivial⟩

/-- A target that is asked for is remembered, and nothing changes, or it is made. -/
theorem run_remembered {reference : String} {make : Resolving Target}
    {result : Except WeavingError Target}
    (ran : (remembered id reference make).run.run before = (result, after)) :
    after = before ∨
      ∃ between, make.run.run before = (result, between) ∧ after.locations = between.locations := by
  obtain ⟨memo, between, ⟨⟩, goes⟩ | ⟨_, ⟨⟩, _⟩ := Fallible.run_bind_eq.mp ran
  cases free : before.lookup? id reference with
  | some target =>
    rw [free] at goes
    exact .inl (Fallible.run_pure_eq.mp goes).2
  | none =>
    rw [free] at goes
    obtain ⟨target, between, made, ends⟩ | ⟨fault, failed, rfl⟩ := Fallible.run_bind_eq.mp goes
    · -- Remembering the target is nothing to the locations.
      cases ends
      exact .inr ⟨between, made, rfl⟩
    · exact .inr ⟨after, failed, rfl⟩

/-- Asking for a target that may have to be made adds no entries but those that making it does. -/
theorem keeps_remembered {reference : String} {make : Resolving Target}
    (makes : Keeps (ElementMemo.ListsOnly · among) make fun _ _ => True) :
    Keeps (ElementMemo.ListsOnly · among) (remembered id reference make) fun _ _ => True := by
  -- Remembering a target leaves the places as making it has left them.
  intro before result after right ran
  refine ⟨?_, fun _ _ => trivial⟩
  rcases run_remembered ran with rfl | ⟨between, made, same⟩
  · exact right
  · rw [ElementMemo.ListsOnly, same]
    exact (makes right made).1

/-- Resolving a class adds no entries for members. -/
theorem keeps_resolveClass (bound : Nat) (id : ClassId) :
    Keeps (ElementMemo.ListsOnly · among) (resolveClass classes bound id) fun _ _ => True := by
  -- The induction is on how many ancestors may still be visited.
  induction bound generalizing id with
  | zero => exact keeps_throw _
  | succ bound ih =>
    unfold resolveClass
    refine keeps_bind (keeps_ofExcept _) fun descriptor _ _ => keeps_remembered ?_
    refine keeps_bind (keeps_ensureLocation _ fun key named => ?_) fun location _ _ => ?_
    · cases named
    cases descriptor.parent with
    | none => exact keeps_pure fun _ => trivial
    | some parent => exact keeps_bind (ih parent) fun _ _ _ => keeps_pure fun _ => trivial

/-- A step that adds no entry but that of one member, and only if its target is of the member. -/
structure Enters (step : Resolving Target) (id : ClassId) (key : String) : Prop where
  keeps : ∀ ⦃among : ClassId → String → Prop⦄, among id key →
    Keeps (ElementMemo.ListsOnly · among) step fun _ _ => True
  names : ∀ ⦃before target after⦄, step.run.run before = (.ok target, after) →
    ∀ ⦃passed name⦄, after.locations.Lists passed name →
      before.locations.Lists passed name ∨ target.named? = some (passed, name)

/-- Asking for a target of a member adds the entry of the member if the target is made. -/
theorem enters_remembered {reference key : String} {make : Resolving Target}
    (makes : ∀ ⦃among : ClassId → String → Prop⦄, among id key →
      Keeps (ElementMemo.ListsOnly · among) make fun target _ => target.named? = some (id, key)) :
    Enters (remembered id reference make) id key where
  keeps among own := keeps_remembered ((makes own).imp fun _ _ _ => trivial)
  names before target after ran passed name lists := by
    rcases run_remembered ran with rfl | ⟨between, made, same⟩
    · exact .inl lists
    · -- What is there afterwards was there before or is the entry of the member.
      let among (passed : ClassId) (name : String) : Prop :=
        before.locations.Lists passed name ∨ (id, key) = (passed, name)
      have right : before.ListsOnly among := fun _ _ earlier => .inl earlier
      have step := @makes among (.inr rfl)
      obtain ⟨only, named⟩ := step right made
      rw [same] at lists
      rcases only lists with earlier | own
      · exact .inl earlier
      · rw [named target rfl, own]
        exact .inr rfl

/-- Resolving a member adds the entry of the member if the target is made. -/
theorem enters_resolveMember (owner : Owner) (kind : ElementKind) (key : String) :
    Enters (resolveMember classes owner kind key) owner.id key := by
  refine enters_remembered fun among own => ?_
  refine keeps_bind (keeps_ensureLocation _ ?_) fun location _ _ => ?_
  · rintro _ ⟨⟩
    exact own
  refine keeps_bind (keeps_resolveClass _ _) fun classTarget _ _ => ?_
  dsimp only
  split
  -- The class declares the member itself, or one of its ancestors does.
  case' isTrue => rw [pure_bind]
  case' isFalse => refine keeps_bind (keeps_resolveClass _ _) fun declaring _ _ => ?_
  all_goals cases kind <;> exact keeps_pure fun _ => rfl

/-- Resolving a parameter adds the entry of its method if the target is made. -/
theorem enters_resolveParameter (owner : Owner) (key : String) (index : Nat) :
    Enters (resolveParameter classes owner key index) owner.id key := by
  -- A parameter has its place with its method.
  refine enters_remembered fun among own => ?_
  refine keeps_bind (keeps_ensureLocation _ ?_) fun location _ _ => ?_
  · rintro _ ⟨⟩
    exact own
  exact keeps_bind ((enters_resolveMember _ _ _).keeps own) fun _ _ _ => keeps_pure fun _ => rfl

/-- Looking at a result goes on with it, or ends with its fault. -/
theorem run_ofExcept_bind {α γ : Type} {outcome : Except WeavingError α}
    {second : α → Resolving γ} {result : Except WeavingError γ}
    (ran : (ofExcept outcome >>= second).run.run before = (result, after)) :
    (∃ value, outcome = .ok value ∧ (second value).run.run before = (result, after)) ∨
      after = before ∧ ∃ fault, result = .error fault := by
  -- An outcome that is an error ends it, and the state stays.
  obtain ⟨value, between, looked, goes⟩ | ⟨fault, failed, rfl⟩ := Fallible.run_bind_eq.mp ran
  · rw [run_ofExcept] at looked
    obtain ⟨same, rfl⟩ := Prod.mk.inj looked
    exact .inl ⟨value, same, goes⟩
  · rw [run_ofExcept] at failed
    exact .inr ⟨(Prod.mk.inj failed).2.symm, fault, rfl⟩

/-- Resolving an element of classes with a root adds no entry but that of the member that the target
is of or in, and none if it fails. -/
theorem lists_of_resolve {result : Except WeavingError Target} (rooted : classes.Rooted)
    (ran : (element.resolve classes).run.run before = (result, after))
    (lists : after.locations.Lists passed name) :
    before.locations.Lists passed name ∨
      ∃ target, result = .ok target ∧ target.named? = some (passed, name) := by
  have whole := ran
  unfold resolve at ran
  obtain ⟨descriptor, found, ran⟩ | ⟨rfl, _⟩ := run_ofExcept_bind ran
  swap
  · exact .inl lists
  obtain ⟨kind, known, ran⟩ | ⟨rfl, _⟩ := run_ofExcept_bind ran
  swap
  · exact .inl lists
  -- What is of some kind is resolved.
  obtain ⟨path, climbs⟩ := rooted (get?_of_get_eq_ok found)
  have recognised := kindOn_eq_ok.mp known
  obtain ⟨target, _, succeeds⟩ :=
    succeeds_resolve element climbs (fun _ => kindOn_eq_ok.mpr recognised) before
  obtain ⟨rfl, rfl⟩ := Prod.mk.inj (succeeds.symm.trans whole)
  cases recognised with
  | whole =>
    have right : before.ListsOnly before.locations.Lists := fun _ _ earlier => earlier
    exact .inl ((keeps_resolveClass _ _ right ran).1 lists)
  | method | property =>
    exact ((enters_resolveMember _ _ _).names ran lists).imp_right fun named => ⟨_, rfl, named⟩
  | parameter =>
    exact ((enters_resolveParameter _ _ _).names ran lists).imp_right fun named => ⟨_, rfl, named⟩

end Element

/-- The places in the tree of a member are at it or in it. -/
theorem MemberTree.Mirrors.member?_eq {tree : MemberTree} {location : Location}
    (mirrors : tree.Mirrors classes id name)
    (place : location = tree.location ∨ location ∈ tree.parameters) :
    location.member? = some name := by
  -- The places of an entry are those of the member and of its parameters.
  cases mirrors with
  | method known count =>
    rcases place with rfl | among
    · rfl
    · obtain ⟨index, _, rfl⟩ := List.mem_map.mp among
      rfl
  | property known =>
    rcases place with rfl | among
    · rfl
    · simp [MemberTree.parameters] at among

/-- Without the tree of one class the entries for the others are as they were. -/
theorem LocationForest.lists_forget (forest : LocationForest) (gone : ClassId) :
    (forest.forget gone).Lists id name ↔ id ≠ gone ∧ forest.Lists id name := by
  -- The entries of one class go.
  unfold Lists entry? forget
  rw [Dictionary.get?_erase]
  split <;> simp_all

/-- An entry for a member stays where trees only grow. -/
theorem LocationForest.Lists.grow {before after : LocationForest} (lists : before.Lists id name)
    (grows : before.GrowsAt after id) : after.Lists id name := by
  -- Entries stay where trees only grow.
  obtain ⟨entry, found⟩ := Option.isSome_iff_exists.mp lists
  obtain ⟨tree, planted, held⟩ := Option.bind_eq_some_iff.mp found
  obtain ⟨grown, planted, further⟩ := grows planted
  obtain ⟨later, held, _⟩ := further.members held
  exact Option.isSome_iff_exists.mpr ⟨later, Option.bind_eq_some_iff.mpr ⟨grown, planted, held⟩⟩

/-- The member that a remembered target is of, or in, has an entry on the target's class. -/
theorem ElementMemo.Mirrors.lists {memo : ElementMemo} {reference : String} {target : Target}
    (mirrors : memo.Mirrors classes) (found : memo.lookup? id reference = some target)
    (named : target.named? = some (passed, name)) : memo.locations.Lists passed name := by
  obtain ⟨key, keyed, same⟩ := Option.map_eq_some_iff.mp named
  obtain ⟨rfl, rfl⟩ := Prod.mk.inj same
  obtain ⟨isOf, tree, planted, place⟩ := mirrors.targets found
  have owner : target.location.owner = target.owner.id := isOf.owner
  have member : target.location.member? = some key := isOf.member.trans keyed
  rw [owner] at planted
  have own := mirrors.trees planted
  rcases place with whole | ⟨entered, entry, held, place⟩
  · -- The place of the class is at no member.
    rw [whole, own.location] at member
    contradiction
  · obtain rfl : entered = key :=
      Option.some.inj (((own.members held).member?_eq place).symm.trans member)
    exact Option.isSome_iff_exists.mpr ⟨entry, Option.bind_eq_some_iff.mpr ⟨tree, planted, held⟩⟩

namespace Reflection

variable {reflection : Reflection β} {asked : List (ClassId × String)}

/-- The members that have been asked for after a call, each with the class that it was asked for on.
Resolving an element asks for the member that its target is of or in, and what has been asked for on
a class is forgotten with the class. -/
def asking (reflection : Reflection β) (asked : List (ClassId × String)) :
    ReflectionCall β → List (ClassId × String)
  | .resolve element =>
    ((reflection.resolve element).1.toOption.bind Target.named?).toList ++ asked
  | .discardClass id => asked.filter fun member => member.1 ≠ id
  | _ => asked

/-- What calls that go through reflection make of reflection on nothing, and the members that have
been asked for by them. -/
inductive Traced : Reflection β → List (ClassId × String) → Prop where
  | empty : Traced empty []
  | call {reflection : Reflection β} {asked : List (ClassId × String)} {call : ReflectionCall β}
      (traced : Traced reflection asked) (whole : call.Whole) (allowed : reflection.Allows call) :
      Traced (reflection.perform call) (reflection.asking asked call)

/-- Whatever is traced is reached. -/
theorem Traced.reached (traced : Traced reflection asked) : Reached reflection := by
  -- The trace is left out.
  induction traced with
  | empty => exact .empty
  | call _ whole allowed reached => exact reached.call whole allowed

/-- Whatever is reached can be traced. -/
theorem Reached.exists_traced (reached : Reached reflection) :
    ∃ asked, Traced reflection asked := by
  -- The trace is kept along the way.
  induction reached with
  | empty => exact ⟨[], .empty⟩
  | call _ whole allowed earlier =>
    obtain ⟨asked, traced⟩ := earlier
    exact ⟨_, traced.call whole allowed⟩

/-- Registering a class asks for nothing. -/
theorem Traced.registerClass (traced : Traced reflection asked) (definition : ClassDefinition β) :
    Traced (reflection.perform (.registerClass definition)) asked :=
  -- Registering asks for no place.
  have whole : (ReflectionCall.registerClass definition).Whole := trivial
  traced.call whole trivial

/-- Resolving an element asks for the member that its target is of or in. -/
theorem Traced.resolve (traced : Traced reflection asked) (element : Element) :
    Traced (reflection.perform (.resolve element)) (reflection.asking asked (.resolve element)) :=
  -- Resolving asks for the places of its element.
  have whole : (ReflectionCall.resolve element : ReflectionCall β).Whole := trivial
  traced.call whole trivial

/-- Resolving an element adds the entry of the member that its target is of or in, and no other. -/
theorem Reached.lists_resolve (reached : Reached reflection) (element : Element) :
    (reflection.resolve element).2.elements.locations.Lists id name ↔
      (reflection.resolve element).1.toOption.bind Target.named? = some (id, name) ∨
        reflection.elements.locations.Lists id name := by
  have sound := reached.maintained.sound
  have whole : (ReflectionCall.resolve element : ReflectionCall β).Whole := trivial
  have coheres := sound.coheres reached.mirrors whole trivial
  constructor
  · intro lists
    unfold Reflection.resolve at lists ⊢
    rcases ran : (element.resolve reflection.classes).run.run reflection.elements with
      ⟨result, elements⟩
    rw [ran] at lists
    rcases Element.lists_of_resolve sound.classes.tended.rooted ran lists with
      earlier | ⟨target, rfl, named⟩
    · exact .inr earlier
    · exact .inl named
  · rintro (named | earlier)
    · cases resolved : (reflection.resolve element).1 with
      | error fault => simp [resolved, Except.toOption] at named
      | ok target =>
        rw [resolved] at named
        -- The target is remembered, and so its member has an entry.
        obtain ⟨reference, _, found⟩ := sound.answers resolved
        exact coheres.mirrors.lists found named
    · exact earlier.grow (coheres.grows nofun)

/-- There are entries exactly for the members that have been asked for. -/
theorem Traced.lists_iff (traced : Traced reflection asked) :
    reflection.elements.locations.Lists id name ↔ (id, name) ∈ asked := by
  -- The induction is on the calls.
  induction traced generalizing id name with
  | empty => exact iff_of_false (fun lists => by cases lists) List.not_mem_nil
  | @call reflection asked call traced whole allowed ih =>
    cases call with
    | registerClass definition =>
      simp only [Reflection.perform, Reflection.registerClass]
      split <;> exact ih
    | discardClass gone =>
      rw [asking, List.mem_filter, ← ih, decide_eq_true_eq]
      show (reflection.elements.locations.forget gone).Lists id name ↔ _
      rw [LocationForest.lists_forget, and_comm]
    | declare declared =>
      simp only [Reflection.perform, Reflection.declare]
      split <;> exact ih
    | resolve element =>
      rw [asking, List.mem_append, Option.mem_toList, ← ih]
      exact traced.reached.lists_resolve element
    | locateClass located =>
      simp only [Reflection.perform, Reflection.locateClass]
      split
      · next made =>
        obtain ⟨location, ensured⟩ := LocationForest.exists_ensure_of_ofClass made
        refine (LocationForest.lists_ensure ensured).trans ?_
        simp [ih, asking]
      · exact ih
    | record decoration => exact ih
    | ensure | forgetTargets | forgetLocations => exact whole.elim

/-- Looking a member up on a class passes over no class that declares the member itself. -/
def RespectsRedeclaration (reflection : Reflection β) (id : ClassId) (name : String) : Prop :=
  ∀ tree, reflection.elements.locations.member? reflection.classes id name = some tree →
    ∀ nearer ∈ reflection.classes.nearerThan id tree.location.owner,
      ¬reflection.classes.Declares nearer name

/-- How a member is looked up on a class, given what has been asked for, and when that respects
redeclaration. -/
structure LooksUp (reflection : Reflection β) (asked : List (ClassId × String)) (id : ClassId)
    (name : String) : Prop where
  /-- The answer is from the nearest class on which the member has been asked for. -/
  nearest : ∀ tree, reflection.elements.locations.member? reflection.classes id name = some tree →
    tree.location.owner ∈ reflection.classes.ancestry id ∧ (tree.location.owner, name) ∈ asked ∧
      ∀ nearer ∈ reflection.classes.nearerThan id tree.location.owner, (nearer, name) ∉ asked
  /-- The answer is what the member is known as on that class. -/
  mirrors : ∀ tree, reflection.elements.locations.member? reflection.classes id name = some tree →
    tree.Mirrors reflection.classes tree.location.owner name
  /-- There is one if the member has been asked for on the class or on an ancestor. -/
  answers : (∃ tree,
      reflection.elements.locations.member? reflection.classes id name = some tree) ↔
    ∃ passed ∈ reflection.classes.ancestry id, (passed, name) ∈ asked
  /-- It respects redeclaration exactly if the member, where it has been asked for at all, has been
  asked for on a class than which no class that declares it is nearer. -/
  respects : reflection.RespectsRedeclaration id name ↔
    ∀ passed ∈ reflection.classes.ancestry id, (passed, name) ∈ asked →
      ∃ nearest ∈ reflection.classes.ancestry id, (nearest, name) ∈ asked ∧
        ∀ nearer ∈ reflection.classes.nearerThan id nearest,
          ¬reflection.classes.Declares nearer name

/-- What is found is the entry of the nearest class on which the member has been asked for. -/
theorem Traced.nearest (traced : Traced reflection asked) {tree : MemberTree}
    (found : reflection.elements.locations.member? reflection.classes id name = some tree) :
    tree.Mirrors reflection.classes tree.location.owner name ∧
      tree.location.owner ∈ reflection.classes.ancestry id ∧
      (tree.location.owner, name) ∈ asked ∧
      ∀ nearer ∈ reflection.classes.nearerThan id tree.location.owner, (nearer, name) ∉ asked := by
  obtain ⟨front, above, back, split, held, apart⟩ := LocationForest.member?_eq_some.mp found
  simp only [traced.lists_iff] at apart
  have listed := traced.lists_iff.mp (Option.isSome_iff_exists.mpr ⟨tree, held⟩)
  obtain ⟨planted, planting, entry⟩ := Option.bind_eq_some_iff.mp held
  have mirrors := (traced.reached.mirrors.trees planting).members entry
  obtain rfl : tree.location.owner = above := by cases mirrors <;> rfl
  refine ⟨mirrors, ?_, listed, ?_⟩
  · rw [split]
    exact List.mem_append_right _ List.mem_cons_self
  · -- The class that is found is not among those in front of it.
    have others : ∀ nearer ∈ front, decide (nearer ≠ tree.location.owner) = true := by
      refine fun nearer member => decide_eq_true fun same => apart nearer member ?_
      rwa [same]
    rw [ClassTable.nearerThan, split, List.takeWhile_append_of_pos others]
    simpa using apart

/-- Whatever is called, a member is looked up on the nearest class on which it has been asked
for. -/
theorem Traced.looksUp (traced : Traced reflection asked) (id : ClassId) (name : String) :
    reflection.LooksUp asked id name := by
  have answers : (∃ tree,
      reflection.elements.locations.member? reflection.classes id name = some tree) ↔
        ∃ passed ∈ reflection.classes.ancestry id, (passed, name) ∈ asked := by
    rw [← Option.isSome_iff_exists, ← Option.ne_none_iff_isSome, Ne,
      LocationForest.member?_eq_none]
    simp [traced.lists_iff]
  refine ⟨fun tree found => (traced.nearest found).2, fun tree found => (traced.nearest found).1,
    answers, ?_, ?_⟩
  · intro respects passed member listed
    obtain ⟨tree, found⟩ := answers.mpr ⟨passed, member, listed⟩
    obtain ⟨_, above, listed, _⟩ := traced.nearest found
    exact ⟨tree.location.owner, above, listed, respects tree found⟩
  · intro covered tree found nearer member
    obtain ⟨_, above, listed, apart⟩ := traced.nearest found
    obtain ⟨nearest, _, wanted, clear⟩ := covered _ above listed
    -- No class on which the member has been asked for is nearer than the one that is found.
    have beyond : nearest ∉ reflection.classes.nearerThan id tree.location.owner :=
      fun nearer => apart nearest nearer wanted
    exact clear nearer (ClassTable.nearerThan_subset beyond member)

/-- A class with a method, and one below it that declares the method again. -/
def redeclaring : Reflection Unit :=
  let methods := Dictionary.ofList [("m", none)]
  let base := { ClassTable.named "Base" with methods }
  let child := { ClassTable.named "Child" with methods, parent := some ⟨0⟩ }
  (empty.perform (.registerClass base)).perform (.registerClass child)

/-- Nothing has been asked for yet. -/
theorem traced_redeclaring : Traced redeclaring [] :=
  -- Both calls register a class.
  (Traced.empty.registerClass _).registerClass _

/-- Where the method has been asked for above only, the answer below is from above, although the
class below declares the method. -/
theorem redeclared_answered_above :
    let reflection := redeclaring.perform (.resolve (.ofMember ⟨0⟩ "m"))
    (∃ asked, Traced reflection asked) ∧ reflection.classes.Declares ⟨1⟩ "m" ∧
      reflection.elements.locations.member? reflection.classes ⟨1⟩ "m" =
        some ⟨.ofMethod ⟨0⟩ "m", some []⟩ ∧
      ¬reflection.RespectsRedeclaration ⟨1⟩ "m" := by
  -- Only the place of the parent has been asked for, although the child declares the name anew.
  intro reflection
  have declares : reflection.classes.Declares ⟨1⟩ "m" := ⟨_, rfl, by decide +kernel⟩
  have found : reflection.elements.locations.member? reflection.classes ⟨1⟩ "m" =
      some ⟨.ofMethod ⟨0⟩ "m", some []⟩ := by decide +kernel
  refine ⟨⟨_, traced_redeclaring.resolve _⟩, declares, found, fun respects => ?_⟩
  exact respects _ found ⟨1⟩ (by decide +kernel) declares

/-- Where the method has been asked for below as well, the answer is from there. -/
theorem looksUp_redeclared :
    let reflection := (redeclaring.perform (.resolve (.ofMember ⟨0⟩ "m"))).perform
      (.resolve (.ofMember ⟨1⟩ "m"))
    reflection.elements.locations.member? reflection.classes ⟨1⟩ "m" =
        some ⟨.ofMethod ⟨1⟩ "m", some []⟩ ∧
      ∃ asked, Traced reflection asked ∧ reflection.LooksUp asked ⟨1⟩ "m" ∧
        reflection.RespectsRedeclaration ⟨1⟩ "m" := by
  intro reflection
  have traced : Traced reflection _ := (traced_redeclaring.resolve _).resolve _
  have looksUp := traced.looksUp ⟨1⟩ "m"
  refine ⟨by decide +kernel, _, traced, looksUp, looksUp.respects.mpr fun _ _ _ => ?_⟩
  -- No class is nearer to the class below than itself.
  have none : reflection.classes.nearerThan ⟨1⟩ ⟨1⟩ = [] := by decide +kernel
  refine ⟨⟨1⟩, by decide +kernel, by decide +kernel, ?_⟩
  rw [none]
  exact fun _ member => by contradiction

end Reflection

end AspectWeaving
