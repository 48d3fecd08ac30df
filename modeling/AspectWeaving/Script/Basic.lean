import AspectWeaving.Json.Basic
import AspectWeaving.Symbol

/-! Scripts: bodies of members, advices and annotations that are written down as data. -/

namespace AspectWeaving.Script

/-- How a script speaks of a class: by a handle, or by its number. -/
inductive ClassName where
  | handle (name : String)
  | number (n : Nat)
deriving DecidableEq, Repr, Inhabited

/-- What a script can ask about the element that it runs for. -/
inductive Facet where
  | name
  | label
  | reference
  | kind
  | className
  | index
  | key
deriving DecidableEq, Repr, Inhabited

/-- What a value can be taken for. -/
inductive Form where
  | int
  | float
  | string
  | bool
  | json
  | classRef
  | object
  | token
  | other
deriving DecidableEq, Repr, Inhabited

/-- An expression of a script. -/
inductive Expr where
  | literal (document : Json)
  | this
  | arg (place : Option Nat)
  | argCount
  | argsText
  /-- A field of the aspect that an advice belongs to. -/
  | own (name : String)
  /-- The tag of the aspect that an advice belongs to. -/
  | tag
  | var (name : String)
  | result
  | datum (key : String)
  | error
  | overdraft
  | hasJoinpoint
  | caught
  | proceed
  | proceedWith (args : List Expr)
  | target (facet : Facet)
  | decorations
  | decorationsOf (reference : String)
  | decorationArg (reference : String) (place : Option Nat)
  | symbolKind
  /-- Runs the symbol that the body was made from. -/
  | captured (args : List Expr)
  | instantiate (handle : String) (args : List Expr)
  | call (receiver : Expr) (method : String) (args : List Expr)
  | get (receiver : Expr) (property : String)
  | field (receiver : Expr) (name : String)
  | fieldNames (receiver : Expr)
  | className (receiver : Expr)
  | isInstanceOf (receiver : Expr) (name : ClassName)
  | describe (receiver : Expr)
  | classRef (name : ClassName)
  | token (content : Nat)
  | add (x y : Expr)
  | less (x y : Expr)
  | same (x y : Expr)
  | not (x : Expr)
  | isNull (x : Expr)
  | debugText (x : Expr)
  | concat (parts : List Expr)
  | cast (form : Form) (x : Expr)
  /-- Has a step of the session carried out. -/
  | step (request : Json)
  | unknown (name : String)
deriving Inhabited

/-- A property whose accessors are scripts, those of a captured one, or those of a field. -/
structure DescriptorForm (σ : Type) where
  keepsCaptured : Bool
  field : Option String
  get : Option (List σ)
  set : Option (List σ)
deriving Inhabited

/-- A symbol whose bodies are scripts. -/
inductive SymbolForm (σ : Type) where
  | method (body : List σ)
  | constructor (body : List σ)
  | property (descriptor : DescriptorForm σ)
deriving Inhabited

/-- A statement of a script. -/
inductive Statement where
  | log (parts : List Expr)
  | finish (value : Option Expr)
  | finishWith (symbol : Option (SymbolForm Statement))
  | setSymbol (symbol : Option (SymbolForm Statement))
  | evaluate (x : Expr)
  | branch (condition : Expr) (yes no : List Statement)
  | attempt (body handler : List Statement)
  | raise (message : Expr)
  | overdraw (amount : Expr)
  | object (message : Expr)
  | failWeaving (name : Expr)
  | failAdvice (label : Expr)
  | set (receiver : Expr) (property : String) (value : Expr)
  | setField (receiver : Expr) (name : String) (value : Expr)
  | setVar (name : String) (value : Expr)
  | setOwn (name : String) (value : Expr)
  | setDatum (key : String) (value : Expr)
  | setValue (value : Expr)
  | setArgs (args : List Expr)
  | setReceiver (receiver : Expr)
  | clearDecorations
  | unknown (name : String)
deriving Inhabited

/-- A body: its statements, the symbol that it was made from, and the object it was made by. -/
inductive Code where
  | script (statements : List Statement) (captured : Option (Symbol Code))
      (objectId : Option Nat)
deriving Inhabited

/-- The body of statements alone. -/
def Code.ofStatements (statements : List Statement) : Code := .script statements none none

/-- The descriptor that a form stands for, for bodies made from a symbol by an aspect's object. -/
def DescriptorForm.toDescriptor (form : DescriptorForm Statement)
    (captured : Option (Symbol Code)) (objectId : Option Nat) : PropertyDescriptor Code :=
  let ofField : PropertyDescriptor Code := (form.field.map .ofField).getD .empty
  let base : PropertyDescriptor Code :=
    match captured with
    | some (.property descriptor) => if form.keepsCaptured then descriptor else ofField
    | _ => ofField
  let access (body : Option (List Statement)) (otherwise : Option (Access Code)) :
      Option (Access Code) :=
    match body with
    | some statements => some (.body (.script statements captured objectId))
    | none => otherwise
  ⟨access form.get base.get, access form.set base.set⟩

/-- The symbol that a form stands for, for bodies made from a symbol by an aspect's object. -/
def SymbolForm.toSymbol (form : SymbolForm Statement) (captured : Option (Symbol Code))
    (objectId : Option Nat) : Symbol Code :=
  match form with
  | .method body => .method (.script body captured objectId)
  | .constructor body => .constructor [.script body captured objectId]
  | .property descriptor => .property (descriptor.toDescriptor captured objectId)

end AspectWeaving.Script
