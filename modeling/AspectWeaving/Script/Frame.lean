import AspectWeaving.Script.Session

/-! Frames: scripts at work, and what they can do to the session and the world. -/

namespace AspectWeaving.Script

/-- The uses of a body that differ in what its script may do. -/
inductive Role where
  | plain
  | getter
  | setter
deriving DecidableEq, Repr, Inhabited

/-- A running script: what it runs on and for, and the last failure that it has caught. -/
structure Frame where
  role : Role
  receiver : Option InstanceId
  args : List Value
  target : Option Target
  objectId : Option Nat
  /-- The invocation that a runtime advice is called for. -/
  invocation : Option (Invocation Code)
  /-- What a compile advice is called for. -/
  compilation : Option (CompileContext Code)
  caught : Option ExecutionError

namespace Frame

/-- A frame without anything in it. -/
def blank : Frame := ⟨.plain, none, [], none, none, none, none, none⟩

/-- The instance that a script runs on. -/
def this? (frame : Frame) : Option InstanceId :=
  match frame.invocation with
  | some invocation => invocation.context.receiver
  | none => frame.receiver

/-- The arguments that a script runs on. -/
def allArgs (frame : Frame) : List Value :=
  match frame.invocation with
  | some invocation => invocation.context.args
  | none => frame.args

/-- The decorations that a script sees. -/
def shownDecorations (frame : Frame) : List (Decoration Code) :=
  match frame.invocation with
  | some invocation => invocation.context.annotations
  | none => (frame.compilation.map CompileContext.annotations).getD []

/-- The symbol that a compile advice sees. -/
def symbol? (frame : Frame) : Option (Symbol Code) :=
  frame.compilation.bind CompileContext.symbol

end Frame

/-- How a script ends. -/
inductive Ending where
  | fell
  | returned (value : Option Value)
  | symbol (symbol : Option (Symbol Code))
deriving Inhabited

/-- The program of a script, which may proceed if it is an advice's. -/
abbrev Act : Type → Type := AdviceAction Code Session

/-- A script at work; its frame stays as it is when it fails. -/
abbrev Running : Type → Type := ExceptT ExecutionError (StateT Frame Act)

namespace Act

variable {α : Type}

/-- Makes a request that any body may make. -/
def request (asked : Request Code Session) : Act asked.Answer :=
  Program.request (AdviceRequest.plain asked)

/-- The state of world and session. -/
def inspect : Act (State Code Session) := request Request.inspect

/-- Has a command carried out. -/
def perform (command : Command Code) : Act command.Answer := request (Request.perform command)

/-- Changes the session. -/
def modifySession (change : Session → Session) : Act Unit := do
  let state ← inspect
  request (Request.store (change state.host))

/-- Proceeds from an advice. -/
def proceed (context : AdviceContext Code) :
    Act (Except ExecutionError Value × Invocation Code) :=
  Program.request (AdviceRequest.proceed context)

/-- The program of a body that is no advice; nothing in it proceeds. -/
def detached (act : Act α) : Action Code Session α :=
  act.run fun request =>
    match request with
    | .plain request => Program.request request
    | .proceed context =>
      Program.done (.error (.advice (.joinpointUnavailable "")), ⟨context, none, none⟩)

end Act

namespace Running

variable {α : Type}

/-- A program as a part of a script. -/
def act (program : Act α) : Running α := ExceptT.lift (StateT.lift program)

/-- A program that may fail as a part of a script. -/
def settle (program : Act (Except ExecutionError α)) : Running α := do
  match ← act program with
  | .ok result => return result
  | .error error => throw error

/-- Fails with a text. -/
def raise (message : String) : Running α := throw (.thrown ⟨message, none⟩)

/-- The world as it is. -/
def getWorld : Running (World Code) := return (← act Act.inspect).world

/-- The session as it is. -/
def getSession : Running Session := return (← act Act.inspect).host

/-- Changes the session. -/
def modifySession (change : Session → Session) : Running Unit := act (Act.modifySession change)

/-- The invocation of a runtime advice. -/
def getInvocation : Running (Invocation Code) := do
  match (← get).invocation with
  | some invocation => return invocation
  | none => raise "script: not in a runtime advice"

/-- Changes the context of a runtime advice. -/
def modifyContext (change : AdviceContext Code → AdviceContext Code) : Running Unit := do
  let invocation ← getInvocation
  modify fun frame =>
    { frame with
      invocation := some { invocation with context := change invocation.context } }

/-- Proceeds with a context, and goes on with the invocation as it is afterwards. -/
def proceed (context : AdviceContext Code) : Running Value := do
  let (result, invocation) ← act (Act.proceed context)
  modify fun frame => { frame with invocation := some invocation }
  match result with
  | .ok value => return value
  | .error error => throw error

/-- Reads a reference; the text of the failure is thrown. -/
def parseReference (text : String) : Running AnnotationRef :=
  match AnnotationRef.parse text with
  | .ok reference => pure reference
  | .error invalid => raise invalid.message

/-- The object of the aspect that an advice belongs to. -/
def ownObject? : Running (Option AspectObject) := do
  let frame ← get
  let session ← getSession
  return frame.objectId.bind fun id => session.objects[id]?

end Running

end AspectWeaving.Script
