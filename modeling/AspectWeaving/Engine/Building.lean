import AspectWeaving.Engine.Objects

/-! Decorating elements and building classes. -/

namespace AspectWeaving.Engine

variable {β τ α : Type}

/-- Carries out a step on what the weaver knows of classes. -/
def onReflection (step : Reflection β → α × Reflection β) : Run β τ α :=
  onWorld fun world =>
    let (result, reflection) := step world.weaver.reflection
    (result, world.changeReflection fun _ => reflection)

/-- Tries an application on an element: the element must be of its kind and pass its check. -/
def check (engine : Engine β τ) (element : Element) (application : Application β) :
    Run β τ (Except ExecutionError (Decoration β)) := do
  match ← onReflection fun reflection => reflection.resolve element with
  | .error fault => return .error (.weaving fault)
  | .ok target =>
    let { declared, args } := application
    match Reflection.checkKind declared target with
    | .error fault => return .error (.weaving fault)
    | .ok () =>
      match declared.stub with
      | none => return .ok { declared, target, args }
      | some code =>
        -- The check is a body of the host and may ask for any command.
        let result ← engine.runAction (engine.host.stub code target args)
        return (result.mapError .aspect).map fun _ => { declared, target, args }

/-- Adds a decoration to those of its class. -/
def record (decoration : Decoration β) : Run β τ Unit :=
  modifyWorld fun world => world.changeReflection fun reflection => reflection.record decoration

/-- Decorates an element. -/
def annotate (engine : Engine β τ) (element : Element) (application : Application β) :
    Run β τ (Except ExecutionError (Decoration β)) := do
  match ← engine.check element application with
  | .error error => return .error error
  | .ok decoration =>
    record decoration
    return .ok decoration

/-- Decorates an element, after which plans are made anew. -/
def decorate (engine : Engine β τ) (element : Element) (application : Application β) :
    Run β τ (Except ExecutionError (Decoration β)) := do
  match ← engine.annotate element application with
  | .error error => return .error error
  | .ok decoration =>
    modifyWorld fun world => world.changeWeaver Weaver.invalidatePlans
    return .ok decoration

/-- Tries applications on a class, up to the first that is rejected. -/
def checkAll (engine : Engine β τ) (id : ClassId) :
    List (Place × Application β) → Run β τ (Except ExecutionError (List (Decoration β)))
  | [] => return .ok []
  | (place, application) :: rest => do
    match ← engine.check (place.on id) application with
    | .error error => return .error error
    | .ok decoration =>
      let others ← checkAll engine id rest
      return others.map fun decorations => decoration :: decorations

/-- Weaves a class. -/
def weave (id : ClassId) : Run β τ (Except WeavingError WovenId) :=
  onWorld fun world => world.weave id

/-- Builds a class; if one of its annotations is rejected the class is discarded. -/
def build (engine : Engine β τ) (blueprint : Blueprint β) :
    Run β τ (Except ExecutionError WovenId) := do
  match blueprint.duplicate with
  | some member =>
    return .error (.weaving (.duplicateMember blueprint.definition.name member))
  | none =>
    -- The class is live from here on, so that its elements can be resolved.
    match ← onReflection fun reflection => reflection.registerClass blueprint.definition with
    | .error fault => return .error (.weaving fault)
    | .ok id =>
      match ← engine.checkAll id blueprint.annotations with
      | .error error =>
        modifyWorld fun world =>
          world.changeReflection fun reflection => reflection.discardClass id
        return .error error
      | .ok decorations =>
        -- No plan is given up here; the class has only just been made.
        decorations.forM record
        return (← weave id).mapError .weaving

/-- The tree of locations of the class that a value is or is an instance of. -/
def locate (value : Value) : Run β τ (Except WeavingError ClassTree) := do
  let world ← getWorld
  onReflection fun reflection =>
    reflection.locate value (fun id => (world.classOf? id).map WovenClass.id) world.className

end AspectWeaving.Engine
