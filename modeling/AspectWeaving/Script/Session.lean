import AspectWeaving.Annotations.Basic
import AspectWeaving.Aspect.Basic
import AspectWeaving.Host
import AspectWeaving.Report.Elements
import AspectWeaving.Script.Basic

/-! Sessions: what scripts share, and what has been given a name. -/

namespace AspectWeaving.Script

/-- The object that an aspect is, with its fields. -/
structure AspectObject where
  typeName : String
  tag : Json
  fields : Dictionary String Value

/-- The variables and the log of a session, all that it has named, and all that it has made. -/
structure Session where
  vars : Dictionary String Value
  /-- The lines logged, the last first. -/
  log : List String
  /-- The classes by name, woven or not. -/
  classes : Dictionary String ClassId
  /-- The woven classes by name, which a later class of that name does not displace. -/
  woven : Dictionary String WovenId
  annotations : Dictionary String (AnnotationDecl Code)
  plans : Dictionary String PlanId
  aspects : Dictionary String RegisteredAspect
  objects : Array AspectObject
  /-- The contents of the tokens. -/
  tokens : Array Nat

namespace Session

/-- A session in which nothing has happened. -/
def start : Session := ⟨.empty, [], .empty, .empty, .empty, .empty, .empty, #[], #[]⟩

/-- The class that a script or a step speaks of. -/
def classId? (session : Session) : ClassName → Option ClassId
  | .handle name => session.classes.get? name
  | .number n => some ⟨n⟩

/-- Names a class. -/
def nameClass (session : Session) (name : String) (id : ClassId) : Session :=
  { session with classes := session.classes.insert name id }

/-- Names a woven class, and the class that it was woven from. -/
def nameWoven (session : Session) (name : String) (id : ClassId) (woven : WovenId) : Session :=
  { session.nameClass name id with woven := session.woven.insert name woven }

/-- Adds a line to the log. -/
def note (session : Session) (line : String) : Session :=
  { session with log := line :: session.log }

/-- Sets a field of an aspect's object. -/
def setOwn (session : Session) (objectId : Nat) (name : String) (value : Value) : Session :=
  { session with
    objects := session.objects.modify objectId fun object =>
      { object with fields := object.fields.insert name value } }

/-- Makes a token with a content. -/
def addToken (session : Session) (content : Nat) : Value × Session :=
  (.token session.tokens.size, { session with tokens := session.tokens.push content })

end Session

/-- The text that a value shows as: a text is itself, anything else its debug text. -/
def shown (world : World Code) : Value → String
  | .json (.string text) => text
  | value => world.debugText value

/-- The document of an instance: its class, and the debug texts of its fields. -/
def instanceJson (world : World Code) (id : InstanceId) : Json :=
  let number := (world.classOf? id).map WovenClass.id
  let fields := ((world.instance? id).map fun object => object.fields.entries).getD []
  .ofFields [
    ("instance", .string (world.className id)),
    ("class", .ofOption ClassId.toJson number),
    ("fields", .array <| fields.map fun (name, value) =>
      .ofStrings [name, world.debugText value])]

/-- The document of a value. -/
def valueJson (state : State Code Session) : Value → Json
  | .json document => .ofFields [("json", document)]
  | .object id => instanceJson state.world id
  | .classRef id => .ofFields [("class", id.toJson)]
  | .token identity => .ofFields [("opaque", .ofOption .ofNat state.host.tokens[identity]?)]

end AspectWeaving.Script
