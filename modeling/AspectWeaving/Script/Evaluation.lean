import AspectWeaving.Report.Failures
import AspectWeaving.Script.Frame

/-! Evaluating expressions and executing statements. -/

namespace AspectWeaving.Script

/-- What the surroundings of a script provide: steps of the session, and the captured symbol. -/
structure Setting where
  step : Json → Act Json
  captured : InstanceId → List Value → Running Value

/-- A text as a value. -/
def textValue (text : String) : Value := .json (.string text)

/-- A truth value as a value. -/
def boolValue (flag : Bool) : Value := .json (.bool flag)

/-- What may be missing as a value, null if it is. -/
def optionValue {α : Type} (toJson : α → Json) (found : Option α) : Value :=
  .json (.ofOption toJson found)

/-- Whether a value is true. -/
def isTrue (value : Value) : Bool := value.asBool? == some true

/-- The integer of a value, zero if it is none. -/
def intOf (value : Value) : Int := value.asInt?.getD 0

/-- The instance that a value must be. -/
def asObject (value : Value) : Running InstanceId :=
  match value.asObject? with
  | some id => pure id
  | none => Running.raise "script: not an instance"

/-- The class that a name must stand for. -/
def findClass (name : ClassName) : Running ClassId := do
  match (← Running.getSession).classId? name with
  | some id => return id
  | none => Running.raise "script: no class"

/-- The document of decorations. -/
def decorationsValue (decorations : List (Decoration Code)) : Running Value := do
  let world ← Running.getWorld
  return .json (Decoration.listJson world.debugText decorations)

/-- What a target shows of itself. -/
def Facet.of (facet : Facet) (target : Target) : Value :=
  match facet with
  | .name => textValue target.name
  | .label => textValue target.label
  | .reference => textValue target.reference
  | .kind => textValue target.kind.text
  | .className => textValue target.className
  | .index => optionValue .ofNat target.index?
  | .key => optionValue .string target.key?

/-- What a value is as a form, null if it is something else. -/
def Form.of (form : Form) (state : State Code Session) (value : Value) : Value :=
  match form with
  | .int => optionValue .int value.asInt?
  | .float => optionValue .float value.asFloat?
  | .string => optionValue .string value.asString?
  | .bool => optionValue .bool value.asBool?
  | .json => optionValue id value.asJson?
  | .classRef => optionValue ClassId.toJson value.asClass?
  | .object => optionValue (fun id => .string (state.world.className id)) value.asObject?
  | .token => optionValue .ofNat (value.asToken?.bind fun identity => state.host.tokens[identity]?)
  | .other => .null

/-- The sort of the payload that `overdraw` throws. -/
def overdraft : String := "Overdrawn"

/-- The amount of an overdraft. -/
def overdraftOf (error : ExecutionError) : Option Json :=
  match error with
  | .thrown ⟨_, some payload⟩ =>
    if payload.sort == overdraft then some payload.content else none
  | _ => none

mutual

/-- Evaluates an expression. -/
def eval (setting : Setting) : Expr → Running Value
  | .literal document => return .json document
  | .this => return ((← get).this?.map Value.object).getD .null
  | .arg place => do
    let args := (← get).allArgs
    return (place.bind fun i => args[i]?).getD .null
  | .argCount => return .json (.ofNat (← get).allArgs.length)
  | .argsText => do
    let world ← Running.getWorld
    return textValue (Text.bracketed ((← get).allArgs.map world.debugText))
  | .own name => do
    return ((← Running.ownObject?).bind fun object => object.fields.get? name).getD .null
  | .tag => return optionValue AspectObject.tag (← Running.ownObject?)
  | .var name => return ((← Running.getSession).vars.get? name).getD .null
  | .result => return (← Running.getInvocation).context.value
  | .datum key => return ((← Running.getInvocation).context.data.get? key).getD .null
  | .error => return optionValue ExecutionError.toJson (← Running.getInvocation).error
  | .overdraft => return optionValue id ((← Running.getInvocation).error.bind overdraftOf)
  | .hasJoinpoint => do
    let joinpoint := (← Running.getInvocation).joinpoint
    return optionValue (fun _ => .string "Joinpoint") joinpoint
  | .caught => return optionValue ExecutionError.toJson (← get).caught
  | .proceed => do Running.proceed (← Running.getInvocation).context
  | .proceedWith args => do
    let args ← evalAll setting args
    Running.proceed { (← Running.getInvocation).context with args }
  | .target facet => return ((← get).target.map facet.of).getD .null
  | .decorations => do decorationsValue (← get).shownDecorations
  | .decorationsOf text => do
    let reference ← Running.parseReference text
    let shown := (← Running.getInvocation).context.annotations
    decorationsValue (shown.filter fun decoration => decoration.reference == reference)
  | .decorationArg text place => do
    let reference ← Running.parseReference text
    let shown := (← Running.getInvocation).context.annotations
    let first := shown.find? fun decoration => decoration.reference == reference
    return (first.bind fun decoration => place.bind fun i => decoration.args[i]?).getD .null
  | .symbolKind => return optionValue (fun symbol => .string symbol.kind.text) (← get).symbol?
  | .captured args => do
    let args ← evalAll setting args
    match (← get).this? with
    | some receiver => setting.captured receiver args
    | none => Running.raise "script: no instance"
  | .instantiate handle args => do
    let args ← evalAll setting args
    match (← Running.getSession).woven.get? handle with
    | some woven => return .object (← Running.settle (Act.perform (.instantiate woven args)))
    | none => Running.raise "script: no class"
  | .call receiver method args => do
    let receiver ← asObject (← eval setting receiver)
    let args ← evalAll setting args
    Running.settle (Act.perform (.call receiver method args))
  | .get receiver property => do
    let receiver ← asObject (← eval setting receiver)
    Running.settle (Act.perform (.get receiver property))
  | .field receiver name => do
    let receiver ← asObject (← eval setting receiver)
    return (← Running.getWorld).field receiver name
  | .fieldNames receiver => do
    let receiver ← asObject (← eval setting receiver)
    return .json (.ofStrings ((← Running.getWorld).fieldNames receiver))
  | .className receiver => do
    let receiver ← asObject (← eval setting receiver)
    return textValue ((← Running.getWorld).className receiver)
  | .isInstanceOf receiver name => do
    let receiver ← asObject (← eval setting receiver)
    let id ← findClass name
    let woven := (← Running.getWorld).classOf? receiver
    return boolValue (woven.any fun woven => woven.isInstanceOf id)
  | .describe receiver => do
    let receiver ← asObject (← eval setting receiver)
    return textValue ((← Running.getWorld).describe receiver)
  | .classRef name => return .classRef (← findClass name)
  | .token content => do
    let (token, session) := (← Running.getSession).addToken content
    Running.modifySession fun _ => session
    return token
  | .add x y => do
    let x ← eval setting x
    let y ← eval setting y
    return .json (.int (Word.wrap (intOf x + intOf y)))
  | .less x y => do
    let x ← eval setting x
    let y ← eval setting y
    return boolValue (intOf x < intOf y)
  | .same x y => do
    let x ← eval setting x
    let y ← eval setting y
    return boolValue (x.same y)
  | .not x => return boolValue (!isTrue (← eval setting x))
  | .isNull x => return boolValue (← eval setting x).isNull
  | .debugText x => do
    let value ← eval setting x
    return textValue ((← Running.getWorld).debugText value)
  | .concat parts => do
    let values ← evalAll setting parts
    return textValue (String.join (values.map (shown (← Running.getWorld))))
  | .cast form x => do
    let value ← eval setting x
    return form.of (← Running.act Act.inspect) value
  | .step request => return .json (← Running.act (setting.step request))
  | .unknown name => Running.raise ("script: unknown expression " ++ name)

/-- Evaluates expressions from left to right. -/
def evalAll (setting : Setting) : List Expr → Running (List Value)
  | [] => return []
  | expr :: rest => do
    let value ← eval setting expr
    return value :: (← evalAll setting rest)

end

/-- Evaluates an expression to the text that it shows as. -/
def evalShown (setting : Setting) (expr : Expr) : Running String := do
  let value ← eval setting expr
  return shown (← Running.getWorld) value

/-- Raises the failure that an amount is not covered. -/
def overdraw (amount : Int) : Running Ending :=
  throw (.thrown
    ⟨"insufficient funds to withdraw " ++ toString amount, some ⟨overdraft, .int amount⟩⟩)

/-- The symbol that a form stands for in a frame; its bodies are made from the one seen there. -/
def symbolIn (frame : Frame) (form : Option (SymbolForm Statement)) : Option (Symbol Code) :=
  form.map fun form => form.toSymbol frame.symbol? frame.objectId

mutual

/-- Executes a statement. -/
def exec (setting : Setting) : Statement → Running Ending
  | .log parts => do
    let values ← evalAll setting parts
    let line := String.join (values.map (shown (← Running.getWorld)))
    Running.modifySession fun session => session.note line
    return .fell
  | .finish none => return .returned none
  | .finish (some value) => return .returned (some (← eval setting value))
  | .finishWith symbol => return .symbol (symbolIn (← get) symbol)
  | .setSymbol symbol => do
    modify fun frame =>
      { frame with
        compilation := frame.compilation.map fun context =>
          { context with symbol := symbolIn frame symbol } }
    return .fell
  | .evaluate x => do
    let _ ← eval setting x
    return .fell
  | .branch condition yes no => do
    if isTrue (← eval setting condition) then execAll setting yes else execAll setting no
  | .attempt body handler =>
    tryCatch (execAll setting body) fun error => do
      modify fun frame => { frame with caught := some error }
      execAll setting handler
  | .raise message => do Running.raise (← evalShown setting message)
  | .overdraw amount => do overdraw (intOf (← eval setting amount))
  | .object message => do
    let text ← evalShown setting message
    throw (.aspect ⟨((← get).target.map Target.label).getD "", text⟩)
  | .failWeaving name => do throw (.weaving (.unknownClass (← evalShown setting name)))
  | .failAdvice label => do throw (.advice (.joinpointUnavailable (← evalShown setting label)))
  | .set receiver property value => do
    let value ← eval setting value
    let receiver ← asObject (← eval setting receiver)
    Running.settle (Act.perform (.set receiver property value))
    return .fell
  | .setField receiver name value => do
    let value ← eval setting value
    let receiver ← asObject (← eval setting receiver)
    Running.act (Act.perform (.setField receiver name value))
    return .fell
  | .setVar name value => do
    let value ← eval setting value
    Running.modifySession fun session => { session with vars := session.vars.insert name value }
    return .fell
  | .setOwn name value => do
    let value ← eval setting value
    if let some objectId := (← get).objectId then
      Running.modifySession fun session => session.setOwn objectId name value
    return .fell
  | .setDatum key value => do
    let value ← eval setting value
    Running.modifyContext fun context =>
      { context with data := context.data.insert key value }
    return .fell
  | .setValue value => do
    let value ← eval setting value
    Running.modifyContext fun context => { context with value }
    return .fell
  | .setArgs args => do
    let args ← evalAll setting args
    Running.modifyContext fun context => { context with args }
    return .fell
  | .setReceiver receiver => do
    let value ← eval setting receiver
    Running.modifyContext fun context => { context with receiver := value.asObject? }
    return .fell
  | .clearDecorations => do
    Running.modifyContext fun context => { context with annotations := [] }
    return .fell
  | .unknown name => Running.raise ("script: unknown statement " ++ name)

/-- Executes statements up to the first that ends the script. -/
def execAll (setting : Setting) : List Statement → Running Ending
  | [] => return .fell
  | statement :: rest => do
    match ← exec setting statement with
    | .fell => execAll setting rest
    | ending => return ending

end

end AspectWeaving.Script
