import AspectWeaving.Element.Location

/-! Targets: elements of classes together with what they are linked to. -/

namespace AspectWeaving

/-- An element as a decorator names it: a class, a member of it, or a parameter by its number. -/
structure Element where
  owner : ClassId
  member : Option String
  index : Option Nat
deriving DecidableEq, Repr

namespace Element

/-- The element that is a whole class. -/
def ofClass (owner : ClassId) : Element := ⟨owner, none, none⟩

/-- The element that is a member. -/
def ofMember (owner : ClassId) (name : String) : Element := ⟨owner, some name, none⟩

/-- The element that is a parameter of a method. -/
def ofParameter (owner : ClassId) (method : String) (index : Nat) : Element :=
  ⟨owner, some method, some index⟩

end Element

/-- The class that a target is on, with its name and reference when the target was made. -/
structure Owner where
  id : ClassId
  name : String
  reference : String
deriving DecidableEq, Repr, Inhabited

/-- A resolved element: a class without or with a parent, a member, or a parameter. -/
inductive Target where
  | root (owner : Owner) (location : Location)
  | subclass (owner : Owner) (location : Location) (parent : Target)
  | method (owner : Owner) (location : Location) (key : String) (classTarget declaring : Target)
  | property (owner : Owner) (location : Location) (key : String) (classTarget declaring : Target)
  | parameter (owner : Owner) (location : Location) (key : String) (index : Nat)
      (methodTarget : Target)
deriving DecidableEq, Repr, Inhabited

namespace Target

/-- The class that a target is on. -/
def owner : Target → Owner
  | .root owner _ | .subclass owner _ _ | .method owner _ _ _ _ | .property owner _ _ _ _
  | .parameter owner _ _ _ _ => owner

/-- The place that a target's annotations are kept at. -/
def location : Target → Location
  | .root _ location | .subclass _ location _ | .method _ location _ _ _
  | .property _ location _ _ _ | .parameter _ location _ _ _ => location

/-- The kind of element. -/
def kind : Target → ElementKind
  | .root _ _ | .subclass _ _ _ => .classType
  | .method _ _ _ _ _ => .method
  | .property _ _ _ _ _ => .property
  | .parameter _ _ _ _ _ => .parameter

/-- The member that an element is or belongs to. -/
def key? : Target → Option String
  | .root _ _ | .subclass _ _ _ => none
  | .method _ _ key _ _ | .property _ _ key _ _ | .parameter _ _ key _ _ => some key

/-- The number of a parameter. -/
def index? : Target → Option Nat
  | .parameter _ _ _ index _ => some index
  | _ => none

/-- The member's name, or the name of the class. -/
def name (target : Target) : String := target.key?.getD target.owner.name

/-- How messages speak of an element. -/
def label : Target → String
  | .root owner _ | .subclass owner _ _ => "class " ++ owner.name
  | .method owner _ key _ _ => "method " ++ owner.name ++ "." ++ key
  | .property owner _ key _ _ => "property " ++ owner.name ++ "." ++ key
  | .parameter owner _ key index _ =>
    "parameter " ++ owner.name ++ "." ++ key ++ "(#" ++ toString index ++ ")"

/-- The reference of an element of a kind on a class with a reference. -/
def referenceOf (owner : String) (kind : ElementKind) (key : String) (index : Nat) : String :=
  match kind with
  | .classType => "c[" ++ owner ++ "]"
  | .method => "c[" ++ owner ++ "].m[" ++ key ++ "]"
  | .property => "c[" ++ owner ++ "].p[" ++ key ++ "]"
  | .parameter => "c[" ++ owner ++ "].m[" ++ key ++ "].a[" ++ toString index ++ "]"

/-- The reference of a target. -/
def reference (target : Target) : String :=
  referenceOf target.owner.reference target.kind (target.key?.getD "") (target.index?.getD 0)

/-- The target of the parent class of the class that an element is on. -/
def parentClass? : Target → Option Target
  | .root _ _ => none
  | .subclass _ _ parent => some parent
  | .method _ _ _ classTarget _ | .property _ _ _ classTarget _ => classTarget.parentClass?
  | .parameter _ _ _ _ methodTarget => methodTarget.parentClass?

/-- What an element is a part of: a member's class, a parameter's method. -/
def parent? : Target → Option Target
  | .root _ _ | .subclass _ _ _ => none
  | .method _ _ _ classTarget _ | .property _ _ _ classTarget _ => some classTarget
  | .parameter _ _ _ _ methodTarget => some methodTarget

/-- The target of the class that declares a member or a parameter's method. -/
def declaring? : Target → Option Target
  | .root _ _ | .subclass _ _ _ => none
  | .method _ _ _ _ declaring | .property _ _ _ _ declaring => some declaring
  | .parameter _ _ _ _ methodTarget => methodTarget.declaring?

/-- The target of the class that declares an element; a class declares itself. -/
def declaringClass (target : Target) : Target := target.declaring?.getD target

/-- The name of the class at the end of an element's parents. -/
def className : Target → String
  | .root owner _ | .subclass owner _ _ => owner.name
  | .method _ _ _ classTarget _ | .property _ _ _ classTarget _ => classTarget.className
  | .parameter _ _ _ _ methodTarget => methodTarget.className

/-- The debug text of a target. -/
def debugText (target : Target) : String :=
  target.reference ++ " (" ++ target.kind.text ++ ")"

end Target

end AspectWeaving
