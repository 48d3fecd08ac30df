import AspectWeaving.Identity
import AspectWeaving.Json.Printer

/-! Values that flow through woven code. -/

namespace AspectWeaving

/-- An argument, a result or the content of a field. -/
inductive Value where
  | json (document : Json)
  | object (id : InstanceId)
  | classRef (id : ClassId)
  /-- Something of the host's, known by its identity alone. -/
  | token (identity : Nat)
deriving Inhabited, Repr

namespace Value

/-- The value of nothing in particular. -/
def null : Value := .json .null

/-- Whether a value is the null document. -/
def isNull : Value → Bool
  | .json document => document.isNull
  | _ => false

/-- Documents are equal by content and all else by identity. -/
def same : Value → Value → Bool
  | .json x, .json y => x.same y
  | .object x, .object y => x == y
  | .classRef x, .classRef y => x == y
  | .token x, .token y => x == y
  | _, _ => false

/-- The document that a value is. -/
def asJson? : Value → Option Json
  | .json document => some document
  | _ => none

/-- The instance that a value is. -/
def asObject? : Value → Option InstanceId
  | .object id => some id
  | _ => none

/-- The class that a value is. -/
def asClass? : Value → Option ClassId
  | .classRef id => some id
  | _ => none

/-- The identity of the token that a value is. -/
def asToken? : Value → Option Nat
  | .token identity => some identity
  | _ => none

/-- The integer that a value is, if it fits into sixty-four bits with sign. -/
def asInt? : Value → Option Int
  | .json document => document.int?
  | _ => none

/-- The floating-point number that a value is or that is nearest to it. -/
def asFloat? : Value → Option Binary64
  | .json (.int n) => some (Binary64.ofInt n)
  | .json (.float x) => some x
  | _ => none

/-- The text that a value is. -/
def asString? : Value → Option String
  | .json document => document.string?
  | _ => none

/-- The truth value that a value is. -/
def asBool? : Value → Option Bool
  | .json document => document.bool?
  | _ => none

/-- The debug text of a value, given the class names of the instances. -/
def debugText (className : InstanceId → String) : Value → String
  | .json document => document.text
  | .object id => "<instance " ++ className id ++ ">"
  | .classRef id => "<class " ++ toString id.number ++ ">"
  | .token _ => "<opaque>"

end Value

end AspectWeaving
