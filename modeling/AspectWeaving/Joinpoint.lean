import AspectWeaving.Error
import AspectWeaving.Value

/-! Joinpoints: the ways to use a class that advices can be woven into. -/

namespace AspectWeaving

/-- Making an instance, calling a method, reading a property or writing one. -/
inductive Joinpoint where
  | construction
  | call
  | get
  | set
deriving DecidableEq, Repr, Inhabited

/-- What a joinpoint runs when no advice interferes. -/
inductive Core (β : Type) where
  | construct (chain : List β)
  | call (code : β)
  | read (access : Access β)
  | write (access : Access β)
deriving Repr

namespace Joinpoint

variable {β : Type}

/-- The word for a joinpoint. -/
def text : Joinpoint → String
  | .construction => "Construction"
  | .call => "Call"
  | .get => "Get"
  | .set => "Set"

/-- The scope of the pointcuts made for a joinpoint. -/
def scope : Joinpoint → Pointcut.Scope
  | .construction => .classType
  | .call => .method
  | .get => .getProperty
  | .set => .setProperty

/-- The scopes to look through for a joinpoint; those of parameters belong to calls. -/
def scopes : Joinpoint → List Pointcut.Scope
  | .construction => [.classType]
  | .call => [.method, .parameter]
  | .get => [.getProperty]
  | .set => [.setProperty]

/-- The sort of symbol that a joinpoint runs. -/
def symbolKind : Joinpoint → SymbolKind
  | .construction => .constructor
  | .call => .method
  | .get | .set => .property

/-- Whether a joinpoint can run a symbol. -/
def accepts (joinpoint : Joinpoint) (symbol : Symbol β) : Bool :=
  symbol.kind == joinpoint.symbolKind

/-- The core that a symbol gives, for the element with a label. -/
def link (joinpoint : Joinpoint) (symbol : Symbol β) (label : String) :
    Except WeavingError (Core β) :=
  match joinpoint, symbol with
  | .construction, .constructor chain => .ok (.construct chain)
  | .call, .method code => .ok (.call code)
  | .get, .property ⟨some access, _⟩ => .ok (.read access)
  | .set, .property ⟨_, some access⟩ => .ok (.write access)
  | .construction, _ | .call, _ => .error (.missingSymbol label)
  | .get, _ => .error (.missingAccessor label .getter)
  | .set, _ => .error (.missingAccessor label .setter)

/-- Whether an advice of a phase may put a value in place of the joinpoint's own. -/
def checkValue (joinpoint : Joinpoint) (phase : Phase) (advice label : String) (value : Value) :
    Except AdviceError Unit :=
  match joinpoint, phase with
  | .construction, .around | .construction, .afterReturn | .construction, .afterThrow =>
    if value.asObject?.isSome then .ok () else .error (.notAnInstance advice label)
  | .set, .afterReturn | .set, .afterThrow => .error (.setterSubstitution advice label)
  | _, _ => .ok ()

end Joinpoint

end AspectWeaving
