/-! Symbols: what a member runs when it is used, given by codes for bodies. -/

namespace AspectWeaving

/-- How a property is read or written: through a field, or by a body. -/
inductive Access (β : Type) where
  | field (name : String)
  | body (code : β)
deriving Repr

/-- The two ways to use a property, each of which may be missing. -/
structure PropertyDescriptor (β : Type) where
  get : Option (Access β)
  set : Option (Access β)
deriving Repr

/-- The descriptor that reads and writes one field. -/
def PropertyDescriptor.ofField {β : Type} (name : String) : PropertyDescriptor β :=
  ⟨some (.field name), some (.field name)⟩

/-- The descriptor without ways to use it. -/
def PropertyDescriptor.empty {β : Type} : PropertyDescriptor β := ⟨none, none⟩

/-- What a slot of a class runs; a constructor is a chain of bodies on one instance. -/
inductive Symbol (β : Type) where
  | constructor (chain : List β)
  | method (code : β)
  | property (descriptor : PropertyDescriptor β)
deriving Repr

/-- The sorts of symbols. -/
inductive SymbolKind where
  | constructor
  | method
  | property
deriving DecidableEq, Repr, Inhabited

/-- The words for a sort of symbol. -/
def SymbolKind.text : SymbolKind → String
  | .constructor => "constructor"
  | .method => "method"
  | .property => "property descriptor"

/-- The sort of a symbol. -/
def Symbol.kind {β : Type} : Symbol β → SymbolKind
  | .constructor _ => .constructor
  | .method _ => .method
  | .property _ => .property

/-- The two uses of a property. -/
inductive AccessKind where
  | getter
  | setter
deriving DecidableEq, Repr

/-- The word for a use of a property. -/
def AccessKind.text : AccessKind → String
  | .getter => "getter"
  | .setter => "setter"

end AspectWeaving
