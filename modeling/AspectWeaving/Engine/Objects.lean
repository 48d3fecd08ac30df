import AspectWeaving.Engine.Plans

/-! Making instances of woven classes and using their members. -/

namespace AspectWeaving.Engine

variable {β τ α : Type}

/-- An activity that relies on the weaver, which it thereby keeps alive. -/
def pinning (activity : Run β τ α) : Run β τ α := do
  modifyWorld World.pin
  let result ← activity
  modifyWorld World.unpin
  return result

/-- An activity of a woven class, which its weaver must be alive for. -/
def withWeaver (woven : WovenClass β) (activity : Run β τ (Except ExecutionError α)) :
    Run β τ (Except ExecutionError α) := do
  if (← getWorld).isAlive then pinning activity
  else return .error (.weaving (.contextDropped woven.reference))

/-- Makes an instance; around advices may give another one in its place. -/
def instantiate (engine : Engine β τ) (id : WovenId) (args : List Value) :
    Run β τ (Except ExecutionError InstanceId) := do
  let woven ← find fun world => world.woven? id
  withWeaver woven do
    -- The instance is there before its constructor runs.
    let receiver ← onWorld fun world => world.allocate id
    match ← engine.executeSlot woven.construction .construction (some receiver) args with
    | .error error => return .error error
    -- An advice may have given another instance instead.
    | .ok (.object made) => return .ok made
    | .ok _ =>
      return .error (.advice (.notAnInstance "construction" woven.construction.target.label))

/-- Calls a method of an instance. -/
def call (engine : Engine β τ) (receiver : InstanceId) (method : String) (args : List Value) :
    Run β τ (Except ExecutionError Value) := do
  let woven ← find fun world => world.classOf? receiver
  match woven.slot? .call method with
  | none => return .error (.weaving (woven.unknownMember method))
  | some slot => withWeaver woven (engine.executeSlot slot .call (some receiver) args)

/-- Reads a property of an instance; a name that is none is a field. -/
def get (engine : Engine β τ) (receiver : InstanceId) (property : String) :
    Run β τ (Except ExecutionError Value) := do
  let woven ← find fun world => world.classOf? receiver
  match woven.slot? .get property with
  | none => return .ok ((← getWorld).field receiver property)
  | some slot => withWeaver woven (engine.executeSlot slot .get (some receiver) [])

/-- Writes a property of an instance; a name that is none is a field. -/
def set (engine : Engine β τ) (receiver : InstanceId) (property : String) (value : Value) :
    Run β τ (Except ExecutionError Unit) := do
  let woven ← find fun world => world.classOf? receiver
  match woven.slot? .set property with
  | none =>
    modifyWorld fun world => world.setField receiver property value
    return .ok ()
  | some slot =>
    let result ← withWeaver woven (engine.executeSlot slot .set (some receiver) [value])
    return result.map fun _ => ()

/-- The plan of a member for a use of it. -/
def planOf (id : WovenId) (joinpoint : Joinpoint) (member : String) :
    Run β τ (Except ExecutionError PlanId) := do
  let woven ← find fun world => world.woven? id
  match woven.slot? joinpoint member with
  | none => return .error (.weaving (woven.unknownMember member))
  | some slot =>
    withWeaver woven do
      return .ok (← onWorld fun world => world.planFor slot.target joinpoint)

end AspectWeaving.Engine
