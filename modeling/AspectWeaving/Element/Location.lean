import AspectWeaving.Element.Kind
import AspectWeaving.Identity

/-! Locations: the places on a class that annotations are kept at. -/

namespace AspectWeaving

/-- A class, one of its members, or a parameter of one of its methods. -/
inductive Location where
  | ofClass (owner : ClassId)
  | ofMethod (owner : ClassId) (name : String)
  | ofProperty (owner : ClassId) (name : String)
  | ofParameter (owner : ClassId) (name : String) (index : Nat)
deriving DecidableEq, Repr, Inhabited

namespace Location

/-- The class that a location is on. -/
def owner : Location → ClassId
  | .ofClass owner | .ofMethod owner _ | .ofProperty owner _ | .ofParameter owner _ _ => owner

/-- The kind of element at a location. -/
def kind : Location → ElementKind
  | .ofClass _ => .classType
  | .ofMethod _ _ => .method
  | .ofProperty _ _ => .property
  | .ofParameter _ _ _ => .parameter

/-- The member that a location is at or in. -/
def member? : Location → Option String
  | .ofClass _ => none
  | .ofMethod _ name | .ofProperty _ name | .ofParameter _ name _ => some name

/-- The number of the parameter at a location. -/
def index? : Location → Option Nat
  | .ofParameter _ _ index => some index
  | _ => none

/-- The same place on another class. -/
def rebase (location : Location) (owner : ClassId) : Location :=
  match location with
  | .ofClass _ => .ofClass owner
  | .ofMethod _ name => .ofMethod owner name
  | .ofProperty _ name => .ofProperty owner name
  | .ofParameter _ name index => .ofParameter owner name index

end Location

end AspectWeaving
