import AspectWeaving.Script.Evaluation

/-! Scripts as bodies: the host that gives codes their meaning. -/

namespace AspectWeaving.Script

/-- Runs statements in a frame, and gives the frame as they leave it. -/
def runIn (setting : Setting) (statements : List Statement) (frame : Frame) :
    Act (Except ExecutionError Ending × Frame) :=
  ((execAll setting statements).run).run frame

/-- The setting of bodies that were made from no symbol. -/
def plainSetting (step : Json → Act Json) : Setting where
  step
  captured _ _ := Running.raise "script: no original"

/-- The value that a script ends with, null if it ends without. -/
def Ending.value : Ending → Value
  | .returned (some value) => value
  | _ => .null

/-- Runs the body of a member; the symbol that it was made from is run in the same way. -/
def runMember (step : Json → Act Json) (code : Code) (role : Role) (receiver : InstanceId)
    (args : List Value) : Act (Except ExecutionError Value) := do
  match code with
  | .script statements captured objectId =>
    let setting : Setting :=
      { step
        captured := fun receiver args =>
          match captured, role with
          | some (.method code), _ => Running.settle (runMember step code .plain receiver args)
          | some (.constructor chain), _ => do
            for ⟨code, _⟩ in chain.attach do
              let _ ← Running.settle (runMember step code .plain receiver args)
            return .null
          | some (.property ⟨some (.body code), _⟩), .getter =>
            Running.settle (runMember step code .getter receiver [])
          | some (.property ⟨some (.field name), _⟩), .getter =>
            return (← Running.getWorld).field receiver name
          | some (.property ⟨_, some (.body code)⟩), .setter => do
            let _ ← Running.settle (runMember step code .setter receiver [args.headD .null])
            return .null
          | some (.property ⟨_, some (.field name)⟩), .setter => do
            Running.act (Act.perform (.setField receiver name (args.headD .null)))
            return .null
          | _, _ => Running.raise "script: no original" }
    let frame := { Frame.blank with role, receiver := some receiver, args, objectId }
    let (result, _) ← runIn setting statements frame
    return result.map Ending.value
termination_by sizeOf code

/-- Runs the body of a stub; a failure that is no objection becomes one of the element's. -/
def runStub (step : Json → Act Json) (code : Code) (target : Target) (args : List Value) :
    Act (Except AspectError Unit) := do
  let .script statements _ objectId := code
  let frame := { Frame.blank with args, target := some target, objectId }
  let (result, _) ← runIn (plainSetting step) statements frame
  match result with
  | .ok _ => return .ok ()
  | .error (.aspect objection) => return .error objection
  | .error error => return .error ⟨target.label, error.message⟩

/-- Runs the body of a compile advice, which may give a symbol and leaves its context changed. -/
def runCompile (step : Json → Act Json) (code : Code) (context : CompileContext Code) :
    Act (Except ExecutionError (Option (Symbol Code)) × CompileContext Code) := do
  let .script statements _ objectId := code
  let frame :=
    { Frame.blank with
      target := some context.target, objectId, compilation := some context }
  let (result, frame) ← runIn (plainSetting step) statements frame
  let given (ending : Ending) : Option (Symbol Code) :=
    match ending with
    | .symbol symbol => symbol
    | _ => none
  return (result.map given, frame.compilation.getD context)

/-- Runs the body of a runtime advice, which may give a value and leaves its context changed. -/
def runAdvice (step : Json → Act Json) (code : Code) (invocation : Invocation Code) :
    Act (Except ExecutionError (Option Value) × AdviceContext Code) := do
  let .script statements _ objectId := code
  let frame :=
    { Frame.blank with
      target := some invocation.context.target, objectId, invocation := some invocation }
  let (result, frame) ← runIn (plainSetting step) statements frame
  let given (ending : Ending) : Option Value :=
    match ending with
    | .returned value => value
    | _ => none
  return (result.map given, (frame.invocation.getD invocation).context)

/-- The host of scripts, given how the steps in them are carried out. -/
def host (step : Json → Act Json) : Host Code Session where
  initializer code receiver args := Act.detached do
    return (← runMember step code .plain receiver args).map fun _ => ()
  method code receiver args := Act.detached (runMember step code .plain receiver args)
  getter code receiver := Act.detached (runMember step code .getter receiver [])
  setter code receiver value := Act.detached do
    return (← runMember step code .setter receiver [value]).map fun _ => ()
  stub code target args := Act.detached (runStub step code target args)
  compile code context := Act.detached (runCompile step code context)
  advice := runAdvice step

end AspectWeaving.Script
