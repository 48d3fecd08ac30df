import AspectWeaving.Element.Forest
import AspectWeaving.Proofs.Dictionary

/-! Locations are made on the class that they are asked for on, and stay there. -/

namespace AspectWeaving

variable {β : Type} {classes : ClassTable β} {id : ClassId} {kind : ElementKind} {name : String}

namespace MemberTree

/-- The locations in a member's tree are on the class that has the member. -/
structure IsOf (tree : MemberTree) (id : ClassId) : Prop where
  location : tree.location.owner = id
  parameters : ∀ location ∈ tree.parameters, location.owner = id

variable {tree : MemberTree}

/-- A new tree is one of the class that it is made for. -/
theorem isOf_fresh : (fresh id name kind).IsOf id := by
  -- A fresh entry has no places but its own.
  cases kind <;> exact ⟨rfl, by simp [fresh, parameters]⟩

/-- A tree stays one of its class when places for parameters are added. -/
theorem IsOf.growTo (isOf : tree.IsOf id) (name : String) (index : Nat) :
    (tree.growTo id name index).IsOf id := by
  -- The places that are added are of the same class.
  refine ⟨isOf.location, fun location among => ?_⟩
  rcases List.mem_append.mp among with known | missing
  · exact isOf.parameters location known
  · obtain ⟨number, _, rfl⟩ := List.mem_map.mp missing
    rfl

/-- The place of a parameter is on the class, and the method's own place stands in for it. -/
theorem IsOf.parameter (isOf : tree.IsOf id) (index : Nat) :
    (tree.parameters[index]?.getD tree.location).owner = id := by
  -- A parameter that has no place yet is at that of its method.
  cases found : tree.parameters[index]? with
  | none => exact isOf.location
  | some location => exact isOf.parameters location (List.mem_of_getElem? found)

end MemberTree

namespace ClassTree

/-- The locations in a class's tree are on the class. -/
structure IsOf (tree : ClassTree) (id : ClassId) : Prop where
  location : tree.location.owner = id
  members : ∀ ⦃name member⦄, tree.members.get? name = some member → member.IsOf id

variable {tree : ClassTree}

/-- A tree stays one of its class when the tree of a member is put in. -/
theorem IsOf.insert (isOf : tree.IsOf id) {member : MemberTree} (ofMember : member.IsOf id) :
    { tree with members := tree.members.insert name member }.IsOf id := by
  -- One entry is new, and of the class like the others.
  refine ⟨isOf.location, fun asked held found => ?_⟩
  rw [Dictionary.get?_insert] at found
  split at found
  · obtain rfl := Option.some.inj found
    exact ofMember
  · exact isOf.members found

/-- The tree of a member is one of the class, whether or not the member has been asked for. -/
theorem IsOf.member (isOf : tree.IsOf id) (name : String) (kind : ElementKind) :
    ((tree.members.get? name).getD (MemberTree.fresh id name kind)).IsOf id := by
  -- An entry that is missing is made for the class.
  cases found : tree.members.get? name with
  | some held => exact isOf.members found
  | none => exact MemberTree.isOf_fresh

end ClassTree

namespace LocationForest

/-- Every tree is one of the class that it is kept for. -/
def Planted (forest : LocationForest) : Prop :=
  ∀ ⦃id tree⦄, forest.trees.get? id = some tree → tree.IsOf id

variable {forest grown : LocationForest}

/-- There are no trees at first. -/
theorem planted_empty : empty.Planted := by
  -- There are no trees.
  intro id tree found
  contradiction

/-- The tree of a class may be put in. -/
theorem Planted.insert (planted : forest.Planted) {tree : ClassTree} (isOf : tree.IsOf id) :
    Planted ⟨forest.trees.insert id tree⟩ := by
  -- One tree is new, and of the class that it is put under.
  intro asked held found
  rw [Dictionary.get?_insert] at found
  split at found
  · next same =>
    obtain rfl := Option.some.inj found
    exact same ▸ isOf
  · exact planted found

/-- Without the tree of one class the others are as they were. -/
theorem Planted.forget (planted : forest.Planted) (id : ClassId) : (forest.forget id).Planted := by
  -- The trees that are left were there before.
  intro asked tree found
  unfold LocationForest.forget at found
  rw [Dictionary.get?_erase] at found
  split at found
  · contradiction
  · exact planted found

/-- The tree of a class is one of it, whether or not the class has been asked for. -/
theorem Planted.treeOf (planted : forest.Planted) (id : ClassId) (descriptor : ClassDescriptor β) :
    (forest.treeOf id descriptor).IsOf id := by
  -- A tree that is missing is made for the class.
  unfold LocationForest.treeOf
  cases found : forest.trees.get? id with
  | some tree => exact planted found
  | none => exact ⟨rfl, fun _ _ absent => by contradiction⟩

/-- The location of an element is on the element's class, and so are those made on the way. -/
theorem Planted.ensure (planted : forest.Planted) {member : Option String} {index : Option Nat}
    {location : Location}
    (made : forest.ensure classes id kind member index = .ok (location, grown)) :
    location.owner = id ∧ grown.Planted := by
  unfold LocationForest.ensure at made
  cases live : classes.get id with
  | error fault => simp [live, Bind.bind, Except.bind] at made
  | ok descriptor =>
    simp only [live, Bind.bind, Except.bind, Pure.pure, Except.pure] at made
    have isOf := planted.treeOf id descriptor
    cases member with
    | none =>
      obtain ⟨rfl, rfl⟩ := Prod.mk.inj (Except.ok.inj made)
      exact ⟨isOf.location, planted.insert isOf⟩
    | some name =>
      have ofMember := isOf.member name kind
      dsimp only at made
      split at made
      · -- A parameter of a method lets the method's tree grow.
        next index =>
        obtain ⟨rfl, rfl⟩ := Prod.mk.inj (Except.ok.inj made)
        have grows := ofMember.growTo name index
        exact ⟨grows.parameter index, planted.insert (isOf.insert grows)⟩
      · obtain ⟨rfl, rfl⟩ := Prod.mk.inj (Except.ok.inj made)
        exact ⟨ofMember.location, planted.insert (isOf.insert ofMember)⟩

/-- Asking for the tree of a class finds the location of the class. -/
theorem exists_ensure_of_ofClass {tree : ClassTree}
    (made : forest.ofClass classes id = .ok (tree, grown)) :
    ∃ location, forest.ensure classes id .classType none none = .ok (location, grown) := by
  -- Asking for the tree of a class is asking for the place of the class.
  unfold LocationForest.ofClass at made
  cases live : classes.get id with
  | error fault => simp [live, Bind.bind, Except.bind] at made
  | ok descriptor =>
    cases ensured : forest.ensure classes id .classType none none with
    | error fault => simp [live, ensured, Bind.bind, Except.bind] at made
    | ok found =>
      simp only [live, ensured, Bind.bind, Except.bind, Pure.pure, Except.pure] at made
      obtain ⟨_, rfl⟩ := Prod.mk.inj (Except.ok.inj made)
      exact ⟨found.1, rfl⟩

/-- Asking for the tree of a class keeps every location where it is. -/
theorem Planted.ofClass (planted : forest.Planted) {tree : ClassTree}
    (made : forest.ofClass classes id = .ok (tree, grown)) : grown.Planted := by
  -- Asking for a tree asks for a place.
  obtain ⟨location, ensured⟩ := exists_ensure_of_ofClass made
  exact (planted.ensure ensured).2

end LocationForest

end AspectWeaving
