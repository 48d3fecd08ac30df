import AspectWeaving.Proofs.Element.Resolution
import AspectWeaving.World

/-! Elements of a live class can always be resolved, and so a live class can always be woven: no
step on the way to its shape fails, whatever has been remembered before. -/

namespace AspectWeaving

variable {β α γ : Type} {classes : ClassTable β} {id : ClassId} {path : List ClassId}
  {reference : String}

namespace Resolving

/-- A step that succeeds whatever has been remembered before. -/
def Succeeds (step : Resolving α) : Prop :=
  ∀ before, ∃ value after, step.run.run before = (.ok value, after)

/-- A result alone succeeds. -/
theorem succeeds_pure (value : α) : Succeeds (pure value) :=
  fun before => ⟨value, before, rfl⟩

/-- A second step succeeds after a first one if both do. -/
theorem succeeds_bind {first : Resolving α} {second : α → Resolving γ} (earlier : Succeeds first)
    (later : ∀ value, Succeeds (second value)) : Succeeds (first >>= second) := by
  -- The second step succeeds wherever the first one ends.
  intro before
  obtain ⟨value, between, made⟩ := earlier before
  obtain ⟨last, after, goes⟩ := later value between
  exact ⟨last, after, Fallible.run_bind_eq.mpr (.inl ⟨value, between, made, goes⟩)⟩

/-- Looking at what is remembered succeeds. -/
theorem succeeds_get : Succeeds (MonadState.get : Resolving ElementMemo) :=
  fun before => ⟨before, before, rfl⟩

/-- Replacing what is remembered succeeds. -/
theorem succeeds_set (memo : ElementMemo) : Succeeds (set memo : Resolving PUnit) :=
  fun _ => ⟨.unit, memo, rfl⟩

/-- Changing what is remembered succeeds. -/
theorem succeeds_modify (change : ElementMemo → ElementMemo) :
    Succeeds (modify change : Resolving PUnit) :=
  fun before => ⟨.unit, change before, rfl⟩

/-- Looking at a result goes on with it if there is one. -/
theorem succeeds_ofExcept_bind {outcome : Except WeavingError α} {second : α → Resolving γ}
    {value : α} (made : outcome = .ok value) (later : Succeeds (second value)) :
    Succeeds (ofExcept outcome >>= second) := by
  rw [made]
  -- What is left of the first step is its result.
  exact later

end Resolving

open Resolving

/-- Looking a live class up succeeds. -/
theorem ClassTable.get_of_get? {descriptor : ClassDescriptor β}
    (live : classes.get? id = some descriptor) : classes.get id = .ok descriptor := by
  simp [ClassTable.get, live]

/-- The location of an element of a live class is always found. -/
theorem LocationForest.exists_ensure_eq_ok (forest : LocationForest)
    {descriptor : ClassDescriptor β} (live : classes.get? id = some descriptor)
    (kind : ElementKind) (member : Option String) (index : Option Nat) :
    ∃ ensured, forest.ensure classes id kind member index = .ok ensured := by
  unfold ensure
  simp only [ClassTable.get_of_get? live, Bind.bind, Except.bind]
  -- The class itself, a parameter or another member is located in its own way.
  split
  · exact ⟨_, rfl⟩
  · split <;> exact ⟨_, rfl⟩

namespace Element

/-- Finding the location of an element of a live class succeeds. -/
theorem succeeds_ensureLocation (element : Element) {descriptor : ClassDescriptor β}
    (live : classes.get? element.owner = some descriptor) (kind : ElementKind) :
    Succeeds (element.ensureLocation classes kind) := by
  -- A live class always has a place for its members.
  unfold ensureLocation
  refine succeeds_bind succeeds_get fun memo => ?_
  obtain ⟨⟨location, locations⟩, found⟩ := memo.locations.exists_ensure_eq_ok live kind
    element.member element.index
  refine succeeds_ofExcept_bind found ?_
  exact succeeds_bind (succeeds_set _) fun _ => succeeds_pure location

/-- A target is given again or made, and it can be made if need be. -/
theorem succeeds_remembered {make : Resolving Target} (makes : Succeeds make) :
    Succeeds (remembered id reference make) := by
  -- Either the target is remembered, or it can be made.
  unfold remembered
  refine succeeds_bind succeeds_get fun memo => ?_
  cases memo.lookup? id reference with
  | some target => exact succeeds_pure target
  | none =>
    refine succeeds_bind makes fun target => ?_
    exact succeeds_bind (succeeds_modify _) fun _ => succeeds_pure target

/-- A class with a way to a root is resolved if so many classes may be visited. -/
theorem succeeds_resolveClass (climbs : classes.Climbs id path) {bound : Nat}
    (enough : path.length ≤ bound) : Succeeds (resolveClass classes bound id) := by
  -- The induction is on the way; each class on it uses up one visit.
  induction climbs generalizing bound with
  | root live top =>
    cases bound with
    | zero => simp at enough
    | succ bound =>
      refine succeeds_ofExcept_bind (ClassTable.get_of_get? live) (succeeds_remembered ?_)
      refine succeeds_bind (succeeds_ensureLocation _ live _) fun location => ?_
      rw [top]
      exact succeeds_pure _
  | child live below _ ih =>
    cases bound with
    | zero => simp at enough
    | succ bound =>
      refine succeeds_ofExcept_bind (ClassTable.get_of_get? live) (succeeds_remembered ?_)
      refine succeeds_bind (succeeds_ensureLocation _ live _) fun location => ?_
      rw [below]
      -- The parent is one step closer to the root.
      have above := ih (Nat.le_of_succ_le_succ enough)
      exact succeeds_bind above fun parent => succeeds_pure _

/-- A class that is passed on a way to a root is resolved. -/
theorem succeeds_resolveClass_of_mem (climbs : classes.Climbs id path) {passed : ClassId}
    (member : passed ∈ path) : Succeeds (resolveClass classes (depthBound classes) passed) := by
  obtain ⟨rest, above, _⟩ := climbs.suffix member
  -- No way is longer than the table has slots.
  have enough : rest.length ≤ depthBound classes := Nat.le_succ_of_le above.length_le
  exact succeeds_resolveClass above enough

/-- The class that declares a member is on the way to the root. -/
theorem declaringClass_mem (climbs : classes.Climbs id path) (key : String) :
    (classes.declaringClass? id key).getD id ∈ path := by
  -- The class that declares the member is one of the lineage, or else the class itself is meant.
  cases found : classes.declaringClass? id key with
  | none => exact climbs.mem_self
  | some declaring =>
    obtain ⟨pair, first, rfl⟩ := Option.map_eq_some_iff.mp found
    exact climbs.mem_of_mem_lineage (List.mem_of_find?_eq_some first)

/-- A member of a class with a way to a root is resolved, whether or not an ancestor declares it. -/
theorem succeeds_resolveMember {owner : Owner} (climbs : classes.Climbs owner.id path)
    (kind : ElementKind) (key : String) :
    Succeeds (resolveMember classes owner kind key) := by
  obtain ⟨descriptor, live⟩ := climbs.live climbs.mem_self
  refine succeeds_remembered ?_
  refine succeeds_bind (succeeds_ensureLocation _ live _) fun location => ?_
  refine succeeds_bind (succeeds_resolveClass_of_mem climbs climbs.mem_self) fun classTarget => ?_
  dsimp only
  split
  -- The class declares the member itself, or one of its ancestors does.
  case' isTrue => refine succeeds_bind (succeeds_pure classTarget) fun declaring => ?_
  case' isFalse =>
    have declared := succeeds_resolveClass_of_mem climbs (declaringClass_mem climbs key)
    refine succeeds_bind declared fun declaring => ?_
  -- Whatever kind the member is of, its target is put together from the two classes.
  all_goals cases kind <;> exact succeeds_pure _

/-- A parameter of a class with a way to a root is resolved. -/
theorem succeeds_resolveParameter {owner : Owner} (climbs : classes.Climbs owner.id path)
    (key : String) (index : Nat) : Succeeds (resolveParameter classes owner key index) := by
  -- The method can be resolved, and with it the parameter.
  obtain ⟨descriptor, live⟩ := climbs.live climbs.mem_self
  refine succeeds_remembered ?_
  refine succeeds_bind (succeeds_ensureLocation _ live _) fun location => ?_
  exact succeeds_bind (succeeds_resolveMember climbs _ _) fun method => succeeds_pure _

/-- An element is resolved if there is one of some kind. -/
theorem succeeds_resolve (element : Element) (climbs : classes.Climbs element.owner path)
    {kind : ElementKind}
    (known : ∀ descriptor, element.kindOn classes descriptor = .ok kind) :
    Succeeds (element.resolve classes) := by
  -- Each kind of element can be resolved once its owner has a way to a root.
  obtain ⟨descriptor, live⟩ := climbs.live climbs.mem_self
  refine succeeds_ofExcept_bind (ClassTable.get_of_get? live) ?_
  refine succeeds_ofExcept_bind (known descriptor) ?_
  split
  · exact succeeds_resolveParameter climbs _ _
  · exact succeeds_resolveMember climbs _ _
  · exact succeeds_resolveMember climbs _ _
  · exact succeeds_resolveClass_of_mem climbs climbs.mem_self

end Element

namespace ClassTable

/-- Every name that is listed as a method or as a property is the name of one. -/
structure MemberNames.Backed (names : MemberNames) (methods properties : String → Prop) :
    Prop where
  methods : ∀ name ∈ names.methods, methods name
  properties : ∀ name ∈ names.properties, properties name

namespace MemberNames

variable {names : MemberNames} {methods properties : String → Prop}

/-- A method that is one may be listed. -/
theorem Backed.addMethod (backed : names.Backed methods properties) {name : String}
    (known : methods name) : (names.addMethod name).Backed methods properties := by
  -- The one name that may be added is backed.
  unfold MemberNames.addMethod
  split
  · exact backed
  · refine ⟨fun listed member => ?_, backed.properties⟩
    rcases List.mem_append.mp member with earlier | last
    · exact backed.methods listed earlier
    · rwa [List.mem_singleton.mp last]

/-- A property that is one may be listed. -/
theorem Backed.addProperty (backed : names.Backed methods properties) {name : String}
    (known : properties name) : (names.addProperty name).Backed methods properties := by
  -- The one name that may be added is backed.
  unfold MemberNames.addProperty
  split
  · exact backed
  · refine ⟨backed.methods, fun listed member => ?_⟩
    rcases List.mem_append.mp member with earlier | last
    · exact backed.properties listed earlier
    · rwa [List.mem_singleton.mp last]

/-- The members of a class may be listed if they are what they are listed as. -/
theorem Backed.addMembers (backed : names.Backed methods properties)
    {descriptor : ClassDescriptor β} (ownMethods : ∀ name ∈ descriptor.methods.keys, methods name)
    (ownProperties : ∀ name ∈ descriptor.properties.keys, properties name) :
    (names.addMembers descriptor).Backed methods properties := by
  -- Each name that is added is backed, the methods first and then the properties.
  have first : (descriptor.methods.keys.foldl MemberNames.addMethod names).Backed methods
      properties :=
    List.foldlRecOn (motive := fun names => Backed names methods properties) _ _ backed
      fun _ backed name member => backed.addMethod (ownMethods name member)
  exact List.foldlRecOn (motive := fun names => Backed names methods properties) _ _ first
    fun _ backed name member => backed.addProperty (ownProperties name member)

end MemberNames

/-- What a class lists as its methods and properties can be found as such. -/
theorem backed_memberNames (classes : ClassTable β) (id : ClassId) :
    (classes.memberNames id).Backed (fun name => (classes.findMethod? id name).isSome)
      (fun name => (classes.findProperty? id name).isSome) := by
  refine List.foldlRecOn (motive := fun names => MemberNames.Backed names _ _) _ _
    ⟨by simp, by simp⟩ fun names backed pair member => ?_
  refine backed.addMembers (fun name listed => ?_) (fun name listed => ?_)
  -- The class of the lineage that has the member lets the search end with a member.
  · obtain ⟨body, held⟩ := Dictionary.mem_keys.mp listed
    refine List.findSome?_isSome_iff.mpr ⟨pair, member, ?_⟩
    simp [held]
  · obtain ⟨declared, held⟩ := Dictionary.mem_keys.mp listed
    refine List.findSome?_isSome_iff.mpr ⟨pair, member, ?_⟩
    simp [held]

end ClassTable

namespace Weaver

open Element

/-- Slots can be made for members that can be found. -/
theorem succeeds_memberSlots (climbs : classes.Climbs id path)
    (natural : String → Option (Symbol β)) {names : List String}
    (known : ∀ name ∈ names,
      (classes.findMethod? id name).isSome ∨ (classes.findProperty? id name).isSome) :
    Succeeds (memberSlots classes id natural names) := by
  have resolves : Succeeds (names.mapM fun name => do
      let target ← (Element.ofMember id name).resolve classes
      return (name, (⟨target, natural name⟩ : Slot β))) := by
    -- The induction is on the members that are still to be resolved.
    induction names with
    | nil => exact succeeds_pure []
    | cons name rest ih =>
      rw [List.mapM_cons, bind_assoc]
      have member : ∃ kind, ∀ descriptor,
          (Element.ofMember id name).kindOn classes descriptor = .ok kind := by
        -- A name that is both counts as a method.
        cases method : (classes.findMethod? id name).isSome with
        | true => exact ⟨.method, fun _ => by simp [kindOn, ofMember, method]⟩
        | false =>
          have property : (classes.findProperty? id name).isSome = true := by
            simpa [method] using known name List.mem_cons_self
          exact ⟨.property, fun _ => by simp [kindOn, ofMember, method, property]⟩
      obtain ⟨kind, member⟩ := member
      refine succeeds_bind (succeeds_resolve _ climbs member) fun target => ?_
      rw [pure_bind]
      have others := ih fun name later => known name (List.mem_cons_of_mem _ later)
      exact succeeds_bind others fun slots => succeeds_pure _
  exact succeeds_bind resolves fun slots => succeeds_pure _

/-- Every class with a way to a root has a shape, whatever mix of own and inherited members. -/
theorem succeeds_shape (climbs : classes.Climbs id path) : Succeeds (shape classes id) := by
  obtain ⟨descriptor, live⟩ := climbs.live climbs.mem_self
  have backed := classes.backed_memberNames id
  refine succeeds_ofExcept_bind (ClassTable.get_of_get? live) ?_
  have whole : ∀ descriptor : ClassDescriptor β,
      (Element.ofClass id).kindOn classes descriptor = .ok .classType := fun _ => rfl
  refine succeeds_bind (succeeds_resolve _ climbs whole) fun target => ?_
  -- The names are those of members that the class or an ancestor has.
  refine succeeds_bind (succeeds_memberSlots climbs _ fun name member =>
    .inl (backed.methods name member)) fun methods => ?_
  refine succeeds_bind (succeeds_memberSlots climbs _ fun name member =>
    .inr (backed.properties name member)) fun properties => ?_
  exact succeeds_pure _

end Weaver

end AspectWeaving
