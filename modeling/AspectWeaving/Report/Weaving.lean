import AspectWeaving.Report.Elements
import AspectWeaving.Weaver

/-! The documents that describe a weaver's configuration, its aspects, plans and woven classes. -/

namespace AspectWeaving

variable {β : Type}

/-- The document of a configuration. -/
def Config.toJson (config : Config) : Json :=
  .ofFields [
    ("enabled", .bool config.enabled),
    ("strict_aspect_ids", .bool config.strictAspectIds),
    ("plan_cache", .bool config.planCache)]

/-- The document of an order. -/
def Order.toJson : Order → Json
  | .highest => .string "highest"
  | .value n => .int n
  | .lowest => .string "lowest"

/-- The document of a precedence. -/
def Precedence.toJson (precedence : Precedence) : Json :=
  .array [
    precedence.aspectOrder.toJson, .ofNat precedence.aspectSeq,
    precedence.adviceOrder.toJson, .ofNat precedence.adviceSeq]

/-- The document of an advice. -/
def Advice.toJson (advice : Advice β) : Json :=
  .ofFields [
    ("name", .string advice.name),
    ("key", .string advice.key),
    ("pointcut", .string advice.pointcut.text),
    ("phase", .string advice.phase.text),
    ("aspect", .string advice.aspectId),
    ("precedence", advice.precedence.toJson),
    ("debug", .string advice.debugText)]

/-- The fields that say which aspect was enabled. -/
def RegisteredAspect.toFields (aspect : RegisteredAspect) : List (String × Json) :=
  [ ("id", .string aspect.id),
    ("order", aspect.order.toJson),
    ("type", .string aspect.typeName)]

/-- The document of an enabled aspect. -/
def RegisteredAspect.toJson (aspect : RegisteredAspect) : Json := .ofFields aspect.toFields

/-- The document of an annotation. -/
def AnnotationDecl.toFields (declared : AnnotationDecl β) : List (String × Json) :=
  [ ("reference", .string declared.reference.text),
    ("group", .string declared.reference.group),
    ("name", .string declared.reference.name),
    ("kind", .string declared.kind.text),
    ("stub", .bool declared.stub.isSome),
    ("debug", .string declared.debugText)]

/-- The fields that describe a woven class. -/
def WovenClass.toFields (woven : WovenClass β) : List (String × Json) :=
  [ ("id", woven.id.toJson),
    ("name", .string woven.name),
    ("reference", .string woven.reference),
    ("value", .string ((Value.classRef woven.id).debugText fun _ => "")),
    ("methods", .ofStrings woven.methods.keys),
    ("properties", .ofStrings woven.properties.keys),
    ("target", .string woven.construction.target.reference),
    ("debug", .string woven.debugText)]

/-- The document of the advices of a plan, phase by phase. -/
def Plan.advicesJson (plan : Plan β) : Json :=
  .ofFields <| Phase.all.map fun phase =>
    (phase.text, .ofStrings <| (plan.ofPhase phase).map fun advice =>
      advice.aspectId ++ " " ++ advice.key)

/-- The document of a plan, given the debug texts of values. -/
def PlanState.toJson (debugText : Value → String) (state : PlanState β) : Json :=
  .ofFields [
    ("target", .string state.plan.target.reference),
    ("kind", .string state.plan.joinpoint.text),
    ("annotations", Decoration.listJson debugText state.plan.annotations),
    ("advices", state.plan.advicesJson),
    ("empty", .bool state.plan.isEmpty),
    ("compiled", .bool state.compiled.isSome),
    ("debug", .string state.plan.debugText)]

end AspectWeaving
