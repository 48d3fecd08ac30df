import AspectWeaving.Class.Basic
import AspectWeaving.Element.Target
import AspectWeaving.Joinpoint

/-! Woven classes: the slots through which instances are made and used. -/

namespace AspectWeaving

/-- An element that can be used, with the symbol it was defined with. -/
structure Slot (β : Type) where
  target : Target
  natural : Option (Symbol β)

/-- A class whose constructor, methods and properties run through execution plans. -/
structure WovenClass (β : Type) where
  id : ClassId
  name : String
  reference : String
  ancestry : List ClassId
  construction : Slot β
  methods : Dictionary String (Slot β)
  properties : Dictionary String (Slot β)

namespace WovenClass

variable {β : Type}

/-- The slot of a member for a use of it; both uses of a property share one. -/
def slot? (woven : WovenClass β) (joinpoint : Joinpoint) (member : String) : Option (Slot β) :=
  match joinpoint with
  | .construction => some woven.construction
  | .call => woven.methods.get? member
  | .get | .set => woven.properties.get? member

/-- Whether instances of a woven class are instances of a class. -/
def isInstanceOf (woven : WovenClass β) (id : ClassId) : Bool := woven.ancestry.contains id

/-- The fault that a woven class has no such member. -/
def unknownMember (woven : WovenClass β) (member : String) : WeavingError :=
  .unknownMember woven.reference member

/-- The debug text of a woven class. -/
def debugText (woven : WovenClass β) : String :=
  "WovenClass \x7b reference: " ++ Text.quoted woven.reference
    ++ ", methods: " ++ Text.bracketed (woven.methods.keys.map Text.quoted)
    ++ ", properties: " ++ Text.bracketed (woven.properties.keys.map Text.quoted) ++ " \x7d"

end WovenClass

end AspectWeaving
