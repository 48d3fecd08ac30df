import AspectWeaving.Element.Forest
import AspectWeaving.Proofs.Dictionary
import AspectWeaving.Proofs.Element.Identity

/-! The trees of locations mirror the members of the classes: an entry is what its name is known as
on the class, the places of parameters have no gap, and finding a location only appends. -/

namespace AspectWeaving

variable {β : Type} {classes : ClassTable β} {id : ClassId} {name : String} {kind : ElementKind}
  {index : Nat} {element : Element} {location : Location}

/-- A location is the place of an element of a kind: on its class, with its member and its number.
-/
structure Location.IsOf (location : Location) (element : Element) (kind : ElementKind) : Prop where
  kind : location.kind = kind
  owner : location.owner = element.owner
  member : location.member? = element.member
  index : location.index? = element.index

namespace MemberTree

variable {before between after tree : MemberTree}

/-- The places of so many parameters of a method, the first ones without a gap. -/
def places (id : ClassId) (name : String) (count : Nat) : List Location :=
  (List.range count).map (Location.ofParameter id name)

/-- The tree of a member: a method with places for parameters, or a property, as the class has it.
-/
inductive Mirrors (classes : ClassTable β) (id : ClassId) (name : String) : MemberTree → Prop where
  | method (known : (Element.ofMember id name).KnownAs classes .method) (count : Nat) :
      Mirrors classes id name ⟨.ofMethod id name, some (places id name count)⟩
  | property (known : (Element.ofMember id name).KnownAs classes .property) :
      Mirrors classes id name ⟨.ofProperty id name, none⟩

/-- A member stays where and what it is, and places are added behind those that it has. -/
structure Grows (before after : MemberTree) : Prop where
  location : after.location = before.location
  isMethod : after.isMethod = before.isMethod
  parameters : before.parameters <+: after.parameters

/-- A tree may stay as it is. -/
theorem Grows.refl (tree : MemberTree) : tree.Grows tree := ⟨rfl, rfl, List.prefix_rfl⟩

/-- A tree may grow again. -/
theorem Grows.trans (first : before.Grows between) (second : between.Grows after) :
    before.Grows after where
  -- What has grown twice has grown.
  location := second.location.trans first.location
  isMethod := second.isMethod.trans first.isMethod
  parameters := first.parameters.trans second.parameters

/-- A method's tree grows to the places up to the one that is asked for. -/
theorem growTo_places (location : Location) (count : Nat) :
    growTo ⟨location, some (places id name count)⟩ id name index =
      ⟨location, some (places id name (max count (index + 1)))⟩ := by
  -- The places that are missing are numbered on from those that are there.
  have counted : List.range (max count (index + 1)) =
      List.range count ++ List.range' count (index + 1 - count) := by
    have joined := @List.range'_append_1 0 count (index + 1 - count)
    rw [Nat.zero_add, show count + (index + 1 - count) = max count (index + 1) by omega] at joined
    rw [List.range_eq_range', List.range_eq_range', joined]
  simp [growTo, parameters, places, counted]

/-- The tree of a known member that is asked for first is what the member is known as. -/
theorem mirrors_fresh (known : (Element.ofMember id name).KnownAs classes kind) :
    (fresh id name kind).Mirrors classes id name := by
  -- A member is known as a method or as a property.
  cases known with
  | method has => exact .method (.method has) 0
  | property lacks has => exact .property (.property lacks has)

/-- The tree of a known member is at the member's place. -/
theorem Mirrors.isOf (mirrors : tree.Mirrors classes id name)
    (known : (Element.ofMember id name).KnownAs classes kind) :
    tree.location.IsOf (.ofMember id name) kind := by
  -- What the tree is there for is what the member is known as.
  cases mirrors with
  | method known' count => exact known'.kind_eq known ▸ ⟨rfl, rfl, rfl, rfl⟩
  | property known' => exact known'.kind_eq known ▸ ⟨rfl, rfl, rfl, rfl⟩

/-- A method's tree that grows is the method's, and has the place that is asked for. -/
theorem Mirrors.growTo (mirrors : tree.Mirrors classes id name)
    (known : (Element.ofMember id name).KnownAs classes .method) (index : Nat) :
    (tree.growTo id name index).Mirrors classes id name ∧
      tree.Grows (tree.growTo id name index) ∧
      (tree.growTo id name index).parameters[index]? = some (.ofParameter id name index) := by
  cases mirrors with
  | property known' => cases known'.kind_eq known
  | method _ count =>
    rw [growTo_places]
    refine ⟨.method known _, ⟨rfl, rfl, ?_⟩, ?_⟩
    · -- The places that were there are the first ones of those that are there now.
      have fewer : List.range count <+: List.range (max count (index + 1)) := by
        rw [List.prefix_iff_eq_take, List.length_range, List.take_range]
        congr 1
        omega
      exact fewer.map _
    · have within : index < max count (index + 1) := by omega
      simp [parameters, places, within]

/-- A tree stays what its member is known as if the lineage of the class stays as it is. -/
theorem Mirrors.of_lineage_eq {before after : ClassTable β} (mirrors : tree.Mirrors before id name)
    (same : after.lineage id = before.lineage id) : tree.Mirrors after id name := by
  -- What a member is known as depends on the lineage alone.
  cases mirrors with
  | method known count => exact .method (known.of_lineage_eq same) count
  | property known => exact .property (known.of_lineage_eq same)

end MemberTree

namespace ClassTree

variable {before between after tree : ClassTree}

/-- The tree of a live class: its place, its parent, and its members as the class has them. -/
structure Mirrors (tree : ClassTree) (classes : ClassTable β) (id : ClassId) : Prop where
  live : ∃ descriptor, classes.get? id = some descriptor ∧ tree.parent = descriptor.parent
  location : tree.location = .ofClass id
  members : ∀ ⦃name member⦄, tree.members.get? name = some member →
    member.Mirrors classes id name

/-- A class keeps its place and its members, which may grow, and new members come last. -/
structure Grows (before after : ClassTree) : Prop where
  location : after.location = before.location
  parent : after.parent = before.parent
  names : before.members.keys <+: after.members.keys
  members : ∀ ⦃name member⦄, before.members.get? name = some member →
    ∃ grown, after.members.get? name = some grown ∧ member.Grows grown

/-- A location is in a tree: it is the place of the class, of a member or of a parameter. -/
def Holds (tree : ClassTree) (location : Location) : Prop :=
  location = tree.location ∨ ∃ name member, tree.members.get? name = some member ∧
    (location = member.location ∨ location ∈ member.parameters)

/-- A tree may stay as it is. -/
theorem Grows.refl (tree : ClassTree) : tree.Grows tree :=
  -- Every entry stays as it is.
  ⟨rfl, rfl, List.prefix_rfl, fun _ member found => ⟨member, found, .refl member⟩⟩

/-- A tree may grow again. -/
theorem Grows.trans (first : before.Grows between) (second : between.Grows after) :
    before.Grows after where
  -- Entries grow in both steps.
  location := second.location.trans first.location
  parent := second.parent.trans first.parent
  names := first.names.trans second.names
  members name member found := by
    obtain ⟨grown, held, grows⟩ := first.members found
    obtain ⟨last, held, again⟩ := second.members held
    exact ⟨last, held, grows.trans again⟩

/-- What is in a tree stays in it. -/
theorem Holds.grow (holds : before.Holds location) (grows : before.Grows after) :
    after.Holds location := by
  -- The place is that of the class, or it is one of an entry, which only grows.
  rcases holds with rfl | ⟨name, member, found, place⟩
  · exact .inl grows.location.symm
  · obtain ⟨grown, held, further⟩ := grows.members found
    refine .inr ⟨name, grown, held, place.imp (fun same => same.trans further.location.symm) ?_⟩
    exact fun among => further.parameters.subset among

/-- The tree of a member, new or grown, is put in without changing anything else. -/
theorem Mirrors.insert (mirrors : tree.Mirrors classes id) {member : MemberTree}
    (fitting : member.Mirrors classes id name)
    (grown : ∀ held, tree.members.get? name = some held → held.Grows member) :
    let after : ClassTree := { tree with members := tree.members.insert name member }
    after.Mirrors classes id ∧ tree.Grows after := by
  refine ⟨⟨mirrors.live, mirrors.location, fun asked held found => ?_⟩, rfl, rfl, ?_,
    fun asked held found => ?_⟩
  · -- A member that is looked up is the one put in, or else one that was there.
    rw [Dictionary.get?_insert] at found
    split at found
    · next same =>
      obtain rfl := Option.some.inj found
      exact same ▸ fitting
    · exact mirrors.members found
  · exact tree.members.prefix_keys_insert name member
  · -- The member put in has grown from its old tree, and the others are as they were.
    rw [Dictionary.get?_insert]
    split
    · next same => exact ⟨member, rfl, grown held (same ▸ found)⟩
    · exact ⟨held, found, .refl held⟩

/-- The tree of a known member, which may have been asked for before. -/
theorem Mirrors.member (mirrors : tree.Mirrors classes id)
    (known : (Element.ofMember id name).KnownAs classes kind) :
    ((tree.members.get? name).getD (.fresh id name kind)).Mirrors classes id name := by
  -- An entry that is missing is made for what the member is known as.
  cases found : tree.members.get? name with
  | some held => exact mirrors.members found
  | none => exact MemberTree.mirrors_fresh known

/-- A tree stays that of its class if the lineage of the class does. -/
theorem Mirrors.of_lineage_eq {before after : ClassTable β} (mirrors : tree.Mirrors before id)
    (same : after.lineage id = before.lineage id) (kept : after.get? id = before.get? id) :
    tree.Mirrors after id :=
  -- Each entry depends on the lineage alone.
  ⟨kept ▸ mirrors.live, mirrors.location, fun _ _ found =>
    (mirrors.members found).of_lineage_eq same⟩

end ClassTree

namespace LocationForest

variable {before between after forest grown : LocationForest}

/-- Every tree is that of the live class that it is kept for. -/
def Mirrors (forest : LocationForest) (classes : ClassTable β) : Prop :=
  ∀ ⦃id tree⦄, forest.trees.get? id = some tree → tree.Mirrors classes id

/-- The tree of a class is still there and has only grown. -/
def GrowsAt (before after : LocationForest) (id : ClassId) : Prop :=
  ∀ ⦃tree⦄, before.trees.get? id = some tree →
    ∃ grown, after.trees.get? id = some grown ∧ tree.Grows grown

/-- A location is in the tree of its class. -/
def Holds (forest : LocationForest) (location : Location) : Prop :=
  ∃ tree, forest.trees.get? location.owner = some tree ∧ tree.Holds location

/-- Trees may stay as they are. -/
theorem GrowsAt.refl (forest : LocationForest) (id : ClassId) : forest.GrowsAt forest id :=
  -- Every tree stays as it is.
  fun tree found => ⟨tree, found, .refl tree⟩

/-- Trees may grow again. -/
theorem GrowsAt.trans (first : before.GrowsAt between id) (second : between.GrowsAt after id) :
    before.GrowsAt after id := by
  -- The tree grows in both steps.
  intro tree found
  obtain ⟨grown, held, grows⟩ := first found
  obtain ⟨last, held, again⟩ := second held
  exact ⟨last, held, grows.trans again⟩

/-- What is in a tree stays in it. -/
theorem Holds.grow (holds : before.Holds location) (grows : before.GrowsAt after location.owner) :
    after.Holds location := by
  -- The place is one of a tree, which only grows.
  obtain ⟨tree, found, among⟩ := holds
  obtain ⟨grown, held, further⟩ := grows found
  exact ⟨grown, held, among.grow further⟩

/-- What finding the location of an element comes to: trees only grow, and they hold it. -/
structure Finds (before after : LocationForest) (classes : ClassTable β) (element : Element)
    (kind : ElementKind) (location : Location) : Prop where
  mirrors : after.Mirrors classes
  grows : ∀ id, before.GrowsAt after id
  isOf : location.IsOf element kind
  holds : after.Holds location

/-- A tree of a class that has grown from the one that was there is put in. -/
theorem Mirrors.finds (mirrors : forest.Mirrors classes) {descriptor : ClassDescriptor β}
    {tree : ClassTree} (fitting : tree.Mirrors classes element.owner)
    (grown : (forest.treeOf element.owner descriptor).Grows tree)
    (isOf : location.IsOf element kind) (holds : tree.Holds location) :
    forest.Finds ⟨forest.trees.insert element.owner tree⟩ classes element kind location where
  mirrors := by
    intro asked held found
    -- The new tree fits, and all others are as before.
    rw [Dictionary.get?_insert] at found
    split at found
    · next same =>
      obtain rfl := Option.some.inj found
      exact same ▸ fitting
    · exact mirrors found
  grows := by
    intro asked held found
    rw [Dictionary.get?_insert]
    split
    · next same =>
      subst same
      refine ⟨tree, rfl, ?_⟩
      rwa [treeOf, found, Option.getD_some] at grown
    · exact ⟨held, found, .refl held⟩
  isOf := isOf
  holds := ⟨tree, by rw [isOf.owner, Dictionary.get?_insert_self], holds⟩

/-- The tree of a member that has grown from the one that was there is put in. -/
theorem Mirrors.finds_member (mirrors : forest.Mirrors classes)
    {descriptor : ClassDescriptor β} (own : (forest.treeOf id descriptor).Mirrors classes id)
    {first member : MemberTree} (fitting : member.Mirrors classes id name)
    (grown : (((forest.treeOf id descriptor).members.get? name).getD first).Grows member)
    (isOf : location.IsOf element kind) (same : element.owner = id)
    (holds : location = member.location ∨ location ∈ member.parameters) :
    let tree := forest.treeOf id descriptor
    forest.Finds ⟨forest.trees.insert id { tree with members := tree.members.insert name member }⟩
      classes element kind location := by
  subst same
  -- Only a member that was there must have grown; for another one there is nothing to keep.
  obtain ⟨mirrors', grows⟩ := own.insert fitting fun held found => by
    rwa [found, Option.getD_some] at grown
  have held :=
    Dictionary.get?_insert_self (forest.treeOf element.owner descriptor).members name member
  exact mirrors.finds mirrors' grows isOf (.inr ⟨name, member, held, holds⟩)

/-- The tree of a live class is that of the class, also if it has not been asked for before. -/
theorem Mirrors.treeOf (mirrors : forest.Mirrors classes) {descriptor : ClassDescriptor β}
    (live : classes.get? id = some descriptor) :
    (forest.treeOf id descriptor).Mirrors classes id := by
  -- A tree that is missing has no entries that could be wrong.
  unfold LocationForest.treeOf
  cases found : forest.trees.get? id with
  | some tree => exact mirrors found
  | none => exact ⟨⟨descriptor, live, rfl⟩, rfl, fun _ _ absent => by contradiction⟩

/-- The location of a known element is its place, and finding it only adds what is missing. -/
theorem Mirrors.ensure (mirrors : forest.Mirrors classes) (known : element.KnownAs classes kind)
    (made : forest.ensure classes element.owner kind element.member element.index =
      .ok (location, grown)) : forest.Finds grown classes element kind location := by
  unfold LocationForest.ensure at made
  cases found : classes.get element.owner with
  | error fault => simp [found, Bind.bind, Except.bind] at made
  | ok descriptor =>
    simp only [found, Bind.bind, Except.bind, Pure.pure, Except.pure] at made
    have own := mirrors.treeOf (Element.get?_of_get_eq_ok found)
    -- The code asks for members alike, so that the kinds differ in what their trees are only.
    cases known with
    | @whole owner =>
      obtain ⟨rfl, rfl⟩ := Prod.mk.inj (Except.ok.inj made)
      refine mirrors.finds own (.refl _) ?_ (.inl rfl)
      rw [own.location]
      exact ⟨rfl, rfl, rfl, rfl⟩
    | @method owner key has =>
      obtain ⟨rfl, rfl⟩ := Prod.mk.inj (Except.ok.inj made)
      have known : (Element.ofMember owner key).KnownAs classes .method := .method has
      exact mirrors.finds_member own (own.member known) (.refl _) ((own.member known).isOf known)
        rfl (.inl rfl)
    | @property owner key lacks has =>
      obtain ⟨rfl, rfl⟩ := Prod.mk.inj (Except.ok.inj made)
      have known : (Element.ofMember owner key).KnownAs classes .property := .property lacks has
      exact mirrors.finds_member own (own.member known) (.refl _) ((own.member known).isOf known)
        rfl (.inl rfl)
    | @parameter owner key index has =>
      obtain ⟨located, rfl⟩ := Prod.mk.inj (Except.ok.inj made)
      -- A parameter is asked for below its method, whose tree grows.
      have known : (Element.ofMember owner key).KnownAs classes .method := .method has
      obtain ⟨fitting, grows, place⟩ := (own.member known).growTo known index
      obtain rfl := (congrArg (Option.getD · _) place).symm.trans located
      exact mirrors.finds_member own fitting grows ⟨rfl, rfl, rfl, rfl⟩ rfl
        (.inr (List.mem_of_getElem? place))

end LocationForest

end AspectWeaving
