import AspectWeaving.Element.Forest
import AspectWeaving.Element.Target

/-! Resolving elements to targets, each of which is made once and then remembered. -/

namespace AspectWeaving

/-- The targets made so far, by class and reference, and the locations they are at. -/
structure ElementMemo where
  targets : Dictionary ClassId (Dictionary String Target)
  locations : LocationForest

/-- A step that may fail; what it has remembered stays remembered if it does. -/
abbrev Resolving : Type → Type := ExceptT WeavingError (StateM ElementMemo)

/-- A step that only looks at a result. -/
def Resolving.ofExcept {α : Type} : Except WeavingError α → Resolving α
  | .ok result => pure result
  | .error fault => throw fault

namespace ElementMemo

variable {β : Type}

/-- The memo without targets and locations. -/
def empty : ElementMemo := ⟨Dictionary.empty, LocationForest.empty⟩

instance : Inhabited ElementMemo := ⟨empty⟩

/-- The target remembered for a class under a reference. -/
def lookup? (memo : ElementMemo) (id : ClassId) (reference : String) : Option Target :=
  (memo.targets.get? id).bind fun targets => targets.get? reference

/-- Remembers a target under its class and reference. -/
def remember (memo : ElementMemo) (id : ClassId) (reference : String) (target : Target) :
    ElementMemo :=
  let known := (memo.targets.get? id).getD Dictionary.empty
  { memo with targets := memo.targets.insert id (known.insert reference target) }

/-- Forgets the targets of a class. -/
def forgetTargets (memo : ElementMemo) (id : ClassId) : ElementMemo :=
  { memo with targets := memo.targets.erase id }

/-- Forgets the locations of a class. -/
def forgetLocations (memo : ElementMemo) (id : ClassId) : ElementMemo :=
  { memo with locations := memo.locations.forget id }

end ElementMemo

namespace Element

variable {β : Type}

/-- The kind of an element; a name that is both is a method, and only methods have parameters. -/
def kindOn (element : Element) (classes : ClassTable β) (descriptor : ClassDescriptor β) :
    Except WeavingError ElementKind :=
  match element.member, element.index with
  | none, none => .ok .classType
  | none, some _ => .error (.unknownMember descriptor.reference "constructor")
  | some key, index =>
    if (classes.findMethod? element.owner key).isSome then
      -- A parameter is known by its method; its number is not checked.
      .ok (if index.isSome then .parameter else .method)
    else if index.isNone && (classes.findProperty? element.owner key).isSome then .ok .property
    else .error (.unknownMember descriptor.reference key)

/-- The location of an element of a kind. -/
def ensureLocation (element : Element) (classes : ClassTable β) (kind : ElementKind) :
    Resolving Location := do
  let memo ← get
  let ensured := memo.locations.ensure classes element.owner kind element.member element.index
  let (location, locations) ← Resolving.ofExcept ensured
  set { memo with locations }
  return location

/-- The remembered target under a reference, or the one that is made now. -/
def remembered (id : ClassId) (reference : String) (make : Resolving Target) :
    Resolving Target := do
  match (← get).lookup? id reference with
  | some target => return target
  | none =>
    -- Making a target may remember others on the way.
    let target ← make
    modify fun memo => memo.remember id reference target
    return target

/-- The target of a class, after those of its ancestors, at most so many. -/
def resolveClass (classes : ClassTable β) : Nat → ClassId → Resolving Target
  | 0, id => throw (.unknownClass ("#" ++ toString id.number))
  | bound + 1, id => do
    let descriptor ← Resolving.ofExcept (classes.get id)
    let owner : Owner := ⟨id, descriptor.name, descriptor.reference⟩
    remembered id (Target.referenceOf descriptor.reference .classType "" 0) do
      let location ← (ofClass id).ensureLocation classes .classType
      match descriptor.parent with
      | none => return .root owner location
      | some parent => return .subclass owner location (← resolveClass classes bound parent)

/-- The number of classes that resolving one may have to visit. -/
def depthBound (classes : ClassTable β) : Nat := classes.arena.slots.length + 1

/-- The target of a member, after those of its class and of the class that declares it. -/
def resolveMember (classes : ClassTable β) (owner : Owner) (kind : ElementKind) (key : String) :
    Resolving Target := do
  remembered owner.id (Target.referenceOf owner.reference kind key 0) do
    let location ← (ofMember owner.id key).ensureLocation classes kind
    let classTarget ← resolveClass classes (depthBound classes) owner.id
    -- A member that no ancestor declares belongs to the class itself.
    let declaringId := (classes.declaringClass? owner.id key).getD owner.id
    let declaring ←
      if declaringId = owner.id then pure classTarget
      else resolveClass classes (depthBound classes) declaringId
    match kind with
    | .property => return .property owner location key classTarget declaring
    | _ => return .method owner location key classTarget declaring

/-- The target of a parameter, after that of its method. -/
def resolveParameter (classes : ClassTable β) (owner : Owner) (key : String) (index : Nat) :
    Resolving Target := do
  remembered owner.id (Target.referenceOf owner.reference .parameter key index) do
    let location ← (ofParameter owner.id key index).ensureLocation classes .parameter
    let methodTarget ← resolveMember classes owner .method key
    return .parameter owner location key index methodTarget

/-- The target that an element names. -/
def resolve (element : Element) (classes : ClassTable β) : Resolving Target := do
  let descriptor ← Resolving.ofExcept (classes.get element.owner)
  let owner : Owner := ⟨element.owner, descriptor.name, descriptor.reference⟩
  let kind ← Resolving.ofExcept (element.kindOn classes descriptor)
  match kind, element.member, element.index with
  | .parameter, some key, some index => resolveParameter classes owner key index
  | .method, some key, _ => resolveMember classes owner .method key
  | .property, some key, _ => resolveMember classes owner .property key
  | _, _, _ => resolveClass classes (depthBound classes) element.owner

end Element

end AspectWeaving
