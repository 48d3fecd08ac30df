import AspectWeaving.Class.Hierarchy
import AspectWeaving.Element.Location

/-! The locations that have been asked for, as one tree for each class. -/

namespace AspectWeaving

/-- A member's location and, for a method, the locations of its parameters. -/
structure MemberTree where
  location : Location
  args : Option (List Location)
deriving DecidableEq, Repr

namespace MemberTree

/-- The locations of the parameters, none for a property. -/
def parameters (tree : MemberTree) : List Location := tree.args.getD []

/-- Whether a tree has places for parameters. -/
def isMethod (tree : MemberTree) : Bool := tree.args.isSome

/-- The tree of a member that was first asked for as an element of a kind. -/
def fresh (owner : ClassId) (name : String) : ElementKind → MemberTree
  | .property => ⟨.ofProperty owner name, none⟩
  | .classType | .method | .parameter => ⟨.ofMethod owner name, some []⟩

/-- The tree with parameters up to a given one. -/
def growTo (tree : MemberTree) (owner : ClassId) (name : String) (index : Nat) : MemberTree :=
  let known := tree.parameters
  -- Parameters are numbered from the first on without a gap.
  let missing := (List.range' known.length (index + 1 - known.length)).map
    (Location.ofParameter owner name)
  { tree with args := some (known ++ missing) }

end MemberTree

/-- A class's location, its parent, and its members in the order in which they were asked for. -/
structure ClassTree where
  location : Location
  parent : Option ClassId
  members : Dictionary String MemberTree

/-- The trees of the classes that have been asked for. -/
structure LocationForest where
  trees : Dictionary ClassId ClassTree

namespace LocationForest

variable {β : Type}

/-- The forest without trees. -/
def empty : LocationForest := ⟨Dictionary.empty⟩

instance : Inhabited LocationForest := ⟨empty⟩

/-- The tree of a class, or a new one with the class's present parent. -/
def treeOf (forest : LocationForest) (id : ClassId) (descriptor : ClassDescriptor β) :
    ClassTree :=
  (forest.trees.get? id).getD ⟨.ofClass id, descriptor.parent, Dictionary.empty⟩

/-- Gives the location of an element of a live class, and adds what is missing on the way. -/
def ensure (forest : LocationForest) (classes : ClassTable β) (id : ClassId) (kind : ElementKind)
    (member : Option String) (index : Option Nat) :
    Except WeavingError (Location × LocationForest) := do
  let descriptor ← classes.get id
  let tree := forest.treeOf id descriptor
  let plant (tree : ClassTree) : LocationForest := ⟨forest.trees.insert id tree⟩
  match member with
  | none => return (tree.location, plant tree)
  | some name =>
    let known := (tree.members.get? name).getD (MemberTree.fresh id name kind)
    -- Only a parameter asks for places below its member.
    match kind, index with
    | .parameter, some index =>
      let grown := known.growTo id name index
      return (grown.parameters[index]?.getD grown.location,
        plant { tree with members := tree.members.insert name grown })
    | _, _ =>
      return (known.location, plant { tree with members := tree.members.insert name known })

/-- The tree of a live class, which exists from then on. -/
def ofClass (forest : LocationForest) (classes : ClassTable β) (id : ClassId) :
    Except WeavingError (ClassTree × LocationForest) := do
  let descriptor ← classes.get id
  let (_, grown) ← forest.ensure classes id .classType none none
  return (grown.treeOf id descriptor, grown)

/-- The forest without the tree of a class. -/
def forget (forest : LocationForest) (id : ClassId) : LocationForest :=
  ⟨forest.trees.erase id⟩

/-- The tree of a member on the nearest class where the member has been asked for. -/
def member? (forest : LocationForest) (classes : ClassTable β) (id : ClassId) (name : String) :
    Option MemberTree :=
  (classes.ancestry id).findSome? fun ancestor =>
    (forest.trees.get? ancestor).bind fun tree => tree.members.get? name

end LocationForest

end AspectWeaving
