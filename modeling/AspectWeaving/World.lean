import AspectWeaving.Weaver

/-! The world that bodies run in: a weaver, and all that it has woven and made. -/

namespace AspectWeaving

/-- An object: the woven class it was made by, and its fields in the order of their first use. -/
structure Instance where
  woven : WovenId
  fields : Dictionary String Value

/-- A weaver, whether it is still held, how many activities rely on it, and what came of it. -/
structure World (β : Type) where
  weaver : Weaver β
  held : Bool
  pins : Nat
  plans : Array (PlanState β)
  wovenClasses : Array (WovenClass β)
  instances : Array Instance

namespace World

variable {β : Type}

/-- The world with a new weaver. -/
def ofConfig (config : Config) : World β := ⟨.ofConfig config, true, 0, #[], #[], #[]⟩

/-- Whether the weaver can still be used: it is held, or something under way relies on it. -/
def isAlive (world : World β) : Bool := world.held || world.pins != 0

/-- The plan with an identity. -/
def plan? (world : World β) (id : PlanId) : Option (PlanState β) := world.plans[id.number]?

/-- The woven class with an identity. -/
def woven? (world : World β) (id : WovenId) : Option (WovenClass β) :=
  world.wovenClasses[id.number]?

/-- The instance with an identity. -/
def instance? (world : World β) (id : InstanceId) : Option Instance := world.instances[id.number]?

/-- The woven class that an instance was made by. -/
def classOf? (world : World β) (id : InstanceId) : Option (WovenClass β) :=
  (world.instance? id).bind fun object => world.woven? object.woven

/-- The name of an instance's class. -/
def className (world : World β) (id : InstanceId) : String :=
  ((world.classOf? id).map WovenClass.name).getD ""

/-- The debug text of a value. -/
def debugText (world : World β) (value : Value) : String := value.debugText world.className

/-- The content of a field, null if there is none. -/
def field (world : World β) (id : InstanceId) (name : String) : Value :=
  ((world.instance? id).bind fun object => object.fields.get? name).getD .null

/-- The names of an instance's fields. -/
def fieldNames (world : World β) (id : InstanceId) : List String :=
  ((world.instance? id).map fun object => object.fields.keys).getD []

/-- The debug text of an instance with its fields. -/
def describe (world : World β) (id : InstanceId) : String :=
  let fields := ((world.instance? id).map fun object => object.fields.entries).getD []
  let shown := fields.map fun (name, value) => name ++ ": " ++ world.debugText value
  world.className id
    ++ if shown.isEmpty then "" else " \x7b " ++ ", ".intercalate shown ++ " \x7d"

/-- Puts a value into a field. -/
def setField (world : World β) (id : InstanceId) (name : String) (value : Value) : World β :=
  { world with
    -- An instance that is not there has no fields to change.
    instances := world.instances.modify id.number fun object =>
      { object with fields := object.fields.insert name value } }

/-- Makes an instance without fields. -/
def allocate (world : World β) (woven : WovenId) : InstanceId × World β :=
  (⟨world.instances.size⟩,
    { world with instances := world.instances.push ⟨woven, Dictionary.empty⟩ })

/-- Has one more activity rely on the weaver. -/
def pin (world : World β) : World β := { world with pins := world.pins + 1 }

/-- Has one activity less rely on the weaver. -/
def unpin (world : World β) : World β := { world with pins := world.pins - 1 }

/-- An activity that has ended leaves no trace. -/
@[simp]
theorem unpin_pin (world : World β) : world.pin.unpin = world := rfl

/-- The weaver can be used as long as an activity relies on it, held or not. -/
@[simp]
theorem isAlive_pin (world : World β) : world.pin.isAlive = true := by simp [isAlive, pin]

/-- Applies a change to the weaver. -/
def changeWeaver (world : World β) (change : Weaver β → Weaver β) : World β :=
  { world with weaver := change world.weaver }

/-- Applies a change to the weaver's reflection. -/
def changeReflection (world : World β) (change : Reflection β → Reflection β) : World β :=
  world.changeWeaver fun weaver => { weaver with reflection := change weaver.reflection }

/-- The woven class kept for a class number. -/
def wovenOf? (world : World β) (id : ClassId) : Option WovenId := world.weaver.woven.get? id

/-- Weaves a class, unless it has been woven under its number before. -/
def weave (world : World β) (id : ClassId) : Except WeavingError WovenId × World β :=
  match world.wovenOf? id with
  | some woven => (.ok woven, world)
  | none =>
    let reflection := world.weaver.reflection
    let (result, elements) := (Weaver.shape reflection.classes id).run.run reflection.elements
    -- What was resolved stays remembered even if the class cannot be woven.
    let world := world.changeReflection fun reflection => { reflection with elements }
    match result with
    | .error fault => (.error fault, world)
    | .ok shape =>
      let woven : WovenId := ⟨world.wovenClasses.size⟩
      let world := { world with wovenClasses := world.wovenClasses.push shape }
      (.ok woven, world.changeWeaver fun weaver =>
        { weaver with woven := weaver.woven.insert id woven })

/-- The plan for a target at a joinpoint: the remembered one, or one that is built now. -/
def planFor (world : World β) (target : Target) (joinpoint : Joinpoint) : PlanId × World β :=
  let weaver := world.weaver
  -- Plans that are out of date are dropped at the first look-up, all at once.
  let memo := weaver.plans.refreshed
  match memo.get? target.reference joinpoint with
  | some id => (id, world)
  | none =>
    let plan := Plan.build weaver.reflection weaver.advices target joinpoint
    let id : PlanId := ⟨world.plans.size⟩
    let memo :=
      if weaver.config.planCache then memo.remember target.reference joinpoint id else memo
    (id, { world with
      plans := world.plans.push (.fresh plan)
      weaver := { weaver with plans := memo } })

end World

end AspectWeaving
