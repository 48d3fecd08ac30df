import AspectWeaving.Pointcut.Basic
import AspectWeaving.Precedence
import AspectWeaving.Text.Quoted

/-! Aspects as they declare themselves, and as they are kept once enabled. -/

namespace AspectWeaving

/-- The id and the order that an aspect asks for. -/
structure AspectOptions where
  id : Option String
  order : Option Order
deriving DecidableEq, Repr

/-- An advice as an aspect declares it, its pointcut not yet read. -/
structure AdviceDeclaration (β : Type) where
  name : String
  phase : Phase
  expression : String
  order : Option Order
  body : β

/-- What a type declares for an object that the host numbers; without options it is no aspect. -/
structure AspectDeclaration (β : Type) where
  typeName : String
  objectId : Nat
  options : Option AspectOptions
  advices : List (AdviceDeclaration β)

namespace AspectDeclaration

variable {β : Type}

/-- The declaration with another id, if it is an aspect's. -/
def withId (declaration : AspectDeclaration β) (id : String) : AspectDeclaration β :=
  { declaration with options := declaration.options.map fun options => { options with id } }

/-- The declaration with another order, if it is an aspect's. -/
def withOrder (declaration : AspectDeclaration β) (order : Order) : AspectDeclaration β :=
  { declaration with
    options := declaration.options.map fun options => { options with order := some order } }

end AspectDeclaration

/-- An enabled aspect; its sequence number tells it from all others that were ever enabled. -/
structure RegisteredAspect where
  id : String
  order : Order
  typeName : String
  objectId : Nat
  seq : Nat
deriving DecidableEq, Repr

/-- The debug text of an enabled aspect. -/
def RegisteredAspect.debugText (aspect : RegisteredAspect) : String :=
  "RegisteredAspect \x7b id: " ++ Text.quoted aspect.id ++ ", order: " ++ aspect.order.debugText
    ++ ", type_name: " ++ Text.quoted aspect.typeName ++ " \x7d"

end AspectWeaving
