import AspectWeaving.Annotations.Reference
import AspectWeaving.Element.Kind
import AspectWeaving.Json.Basic
import AspectWeaving.Pointcut.Basic
import AspectWeaving.Symbol

/-! Why weaving, running and registering can fail, and what the failures say. -/

namespace AspectWeaving

/-- Faults of the woven classes and their use. -/
inductive WeavingError where
  | unknownClass (name : String)
  | unknownMember (owner member : String)
  | duplicateMember (owner member : String)
  | missingSymbol (label : String)
  | missingAccessor (label : String) (access : AccessKind)
  | invalidAnnotationTarget (reference : AnnotationRef) (expected : ElementKind)
      (label : String)
  | annotationKindConflict (reference : AnnotationRef) (existing : ElementKind)
  | notAConstructorNorInstance (text : String)
  | missingInstance (label : String)
  | contextDropped (reference : String)
deriving DecidableEq, Repr

/-- The text of a weaving fault. -/
def WeavingError.message : WeavingError → String
  | .unknownClass name => "Unknown class `" ++ name ++ "`"
  | .unknownMember owner member => "Class `" ++ owner ++ "` has no member `" ++ member ++ "`"
  | .duplicateMember owner member =>
    "Member `" ++ member ++ "` is declared twice on class `" ++ owner ++ "`"
  | .missingSymbol label =>
    "No compile advice nor original definition is available for " ++ label
  | .missingAccessor label access => label ++ " has no " ++ access.text
  | .invalidAnnotationTarget reference expected label =>
    "Annotation " ++ reference.text ++ " applies to " ++ expected.text
      ++ " targets only, not to " ++ label
  | .annotationKindConflict reference existing =>
    "Annotation " ++ reference.text ++ " is already declared as a " ++ existing.text
      ++ " annotation"
  | .notAConstructorNorInstance text => text ++ " is not a constructor nor instance"
  | .missingInstance label => label ++ " was invoked without an instance"
  | .contextDropped reference =>
    "The weaving context of class `" ++ reference ++ "` has been dropped"

/-- Breaches of what advices of a phase may do. -/
inductive AdviceError where
  | unexpectedReturn (phase : Phase) (advice label : String)
  | setterSubstitution (advice label : String)
  | notAnInstance (advice label : String)
  | incompatibleSymbol (advice label : String) (expected found : SymbolKind)
  | joinpointUnavailable (label : String)
deriving DecidableEq, Repr

/-- The text of a breach. -/
def AdviceError.message : AdviceError → String
  | .unexpectedReturn phase advice label =>
    phase.text ++ " advice `" ++ advice ++ "` returned a value for " ++ label ++ "; "
      ++ phase.text ++ " advices must not return values"
  | .setterSubstitution advice label =>
    "Advice `" ++ advice ++ "` tried to substitute the value of a setter (" ++ label ++ ")"
  | .notAnInstance advice label =>
    "Advice `" ++ advice ++ "` replaced the instance of " ++ label
      ++ " with a value that is not an instance"
  | .incompatibleSymbol advice label expected found =>
    "Compile advice `" ++ advice ++ "` returned a " ++ found.text ++ " for " ++ label
      ++ ", expected a " ++ expected.text
  | .joinpointUnavailable label =>
    "Joinpoint of " ++ label ++ " can only be invoked from an around advice"

/-- What an aspect or an annotation has to object to an element. -/
structure AspectError where
  label : String
  message : String
deriving DecidableEq, Repr

/-- The text of an objection, with the element it is about. -/
def AspectError.text (error : AspectError) : String :=
  error.message ++ " (on " ++ error.label ++ ")"

/-- A document that is thrown along with a text, under a name for its sort. -/
structure Payload where
  sort : String
  content : Json
deriving Repr

/-- What a body throws: a text, and a payload if there is one. -/
structure Thrown where
  message : String
  payload : Option Payload
deriving Repr

/-- Why a piece of woven code did not finish. -/
inductive ExecutionError where
  | weaving (fault : WeavingError)
  | advice (breach : AdviceError)
  | aspect (objection : AspectError)
  | thrown (cause : Thrown)
deriving Repr

namespace ExecutionError

/-- The text of an error. -/
def message : ExecutionError → String
  | .weaving fault => fault.message
  | .advice breach => breach.message
  | .aspect objection => objection.text
  | .thrown cause => cause.message

/-- Whether no advice may handle an error. -/
def isFatal : ExecutionError → Bool
  | .weaving _ | .advice _ => true
  | .aspect _ | .thrown _ => false

end ExecutionError

/-- Why an aspect was not enabled. -/
inductive RegistrationError where
  | notAnAspect (objection : AspectError)
  | pointcut (aspect advice expression : String) (source : Pointcut.ParseError)
  | duplicateId (id : String)
deriving DecidableEq, Repr

/-- The text of a refusal. -/
def RegistrationError.message : RegistrationError → String
  | .notAnAspect objection => objection.text
  | .pointcut aspect advice expression source =>
    "Invalid pointcut `" ++ expression ++ "` for advice `" ++ advice ++ "` of aspect `"
      ++ aspect ++ "`: " ++ source.message
  | .duplicateId id => "An aspect with id `" ++ id ++ "` is already enabled"

end AspectWeaving
