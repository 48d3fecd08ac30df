import AspectWeaving.Aspect.Registry
import AspectWeaving.Class.Woven
import AspectWeaving.Config
import AspectWeaving.Plan.Basic
import AspectWeaving.Plan.Memo

/-! The weaver: reflection on classes, the enabled aspects, and the plans made of both. -/

namespace AspectWeaving

/-- What a weaver keeps. -/
structure Weaver (β : Type) where
  config : Config
  reflection : Reflection β
  aspects : AspectRegistry
  advices : AdviceIndex β
  plans : PlanMemo
  woven : Dictionary ClassId WovenId

namespace Weaver

variable {β : Type}

/-- A weaver without classes and aspects. -/
def ofConfig (config : Config) : Weaver β :=
  ⟨config, .empty, .empty, .empty, .empty, Dictionary.empty⟩

/-- Gives up the plans made so far. -/
def invalidatePlans (weaver : Weaver β) : Weaver β :=
  { weaver with plans := weaver.plans.invalidate }

/-- Lists the advices of a registered aspect in place of those that its id had before. -/
def install (weaver : Weaver β) (registration : Registration β) : Weaver β :=
  -- The advices of the aspect that is replaced go first.
  let index :=
    if registration.replaced then weaver.advices.unregister registration.aspect.id
    else weaver.advices
  { weaver with advices := registration.advices.foldl AdviceIndex.register index }

/-- Enables an aspect. -/
def enable (weaver : Weaver β) (declaration : AspectDeclaration β) :
    Except RegistrationError RegisteredAspect × Weaver β :=
  let (result, aspects) :=
    (AspectRegistry.register declaration weaver.config.strictAspectIds).run.run weaver.aspects
  let weaver := { weaver with aspects }
  match result with
  -- A refused aspect has used numbers up, and nothing else has changed.
  | .error refusal => (.error refusal, weaver)
  | .ok registration => (.ok registration.aspect, (weaver.install registration).invalidatePlans)

/-- Enables aspects one after the other, up to the first that is refused. -/
def enableAll (weaver : Weaver β) :
    List (AspectDeclaration β) → Except RegistrationError (List RegisteredAspect) × Weaver β
  | [] => (.ok [], weaver)
  | declaration :: rest =>
    match weaver.enable declaration with
    -- Those that were enabled before a refusal stay enabled.
    | (.error refusal, weaver) => (.error refusal, weaver)
    | (.ok aspect, weaver) =>
      let (others, weaver) := weaver.enableAll rest
      (others.map fun aspects => aspect :: aspects, weaver)

/-- Disables an aspect, and says whether it was enabled. -/
def disable (weaver : Weaver β) (id : String) : Bool × Weaver β :=
  let enabled := weaver.aspects.aspects.contains id
  let weaver :=
    { weaver with
      aspects := weaver.aspects.remove id
      advices := weaver.advices.unregister id }
  (enabled, if enabled then weaver.invalidatePlans else weaver)

/-- Drops all plans. -/
def reset (weaver : Weaver β) : Weaver β := { weaver with plans := .empty }

/-- The symbol that makes instances of a class: every constructor of its ancestry, root first. -/
def naturalConstructor (classes : ClassTable β) (id : ClassId) : Symbol β :=
  -- The lineage starts with the class itself, and constructors run from the root.
  .constructor ((classes.lineage id).reverse.filterMap fun pair => pair.2.initializer)

/-- The body of the nearest method of a name, if it has one. -/
def naturalMethod (classes : ClassTable β) (id : ClassId) (name : String) : Option (Symbol β) :=
  (classes.findMethod? id name).bind fun found => found.2.map .method

/-- The descriptor of the nearest property of a name. -/
def naturalProperty (classes : ClassTable β) (id : ClassId) (name : String) :
    Option (Symbol β) :=
  (classes.findProperty? id name).map fun found => .property found.2

/-- The slots of members of some names, each with its target and its natural symbol. -/
def memberSlots (classes : ClassTable β) (id : ClassId)
    (natural : String → Option (Symbol β)) (names : List String) :
    Resolving (Dictionary String (Slot β)) := do
  let slots ← names.mapM fun name => do
    let target ← (Element.ofMember id name).resolve classes
    return (name, ⟨target, natural name⟩)
  return Dictionary.ofList slots

/-- The slots of a live class as its hierarchy stands now. -/
def shape (classes : ClassTable β) (id : ClassId) : Resolving (WovenClass β) := do
  let descriptor ← Resolving.ofExcept (classes.get id)
  let names := classes.memberNames id
  -- Resolving the class first puts its location before those of its members.
  let target ← (Element.ofClass id).resolve classes
  let methods ← memberSlots classes id (naturalMethod classes id) names.methods
  let properties ← memberSlots classes id (naturalProperty classes id) names.properties
  return {
    id
    name := descriptor.name
    reference := descriptor.reference
    ancestry := classes.ancestry id
    construction := ⟨target, some (naturalConstructor classes id)⟩
    methods, properties }

end Weaver

end AspectWeaving
