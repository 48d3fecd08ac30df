import AspectWeaving.Environment
import AspectWeaving.Error

/-! The documents that report failures: what sort it is, its text, and whether it is fatal. -/

namespace AspectWeaving

/-- The name of a pointcut failure. -/
def Pointcut.ParseError.kindName : Pointcut.ParseError → String
  | .empty => "Pointcut.Empty"
  | .invalidReference _ => "Pointcut.InvalidAnnotation"
  | .unknownScope _ => "Pointcut.UnknownType"
  | .trailingInput _ _ => "Pointcut.TrailingInput"

/-- The name of a weaving fault. -/
def WeavingError.kindName : WeavingError → String
  | .unknownClass _ => "Weaving.UnknownClass"
  | .unknownMember _ _ => "Weaving.UnknownMember"
  | .duplicateMember _ _ => "Weaving.DuplicateMember"
  | .missingSymbol _ => "Weaving.MissingSymbol"
  | .missingAccessor _ _ => "Weaving.MissingAccessor"
  | .invalidAnnotationTarget _ _ _ => "Weaving.InvalidAnnotationTarget"
  | .annotationKindConflict _ _ => "Weaving.AnnotationKindConflict"
  | .notAConstructorNorInstance _ => "Weaving.NotAConstructorNorInstance"
  | .missingInstance _ => "Weaving.MissingInstance"
  | .contextDropped _ => "Weaving.ContextDropped"

/-- The name of a breach of an advice. -/
def AdviceError.kindName : AdviceError → String
  | .unexpectedReturn _ _ _ => "Advice.UnexpectedReturn"
  | .setterSubstitution _ _ => "Advice.SetterSubstitution"
  | .notAnInstance _ _ => "Advice.NotAnInstance"
  | .incompatibleSymbol _ _ _ _ => "Advice.IncompatibleSymbol"
  | .joinpointUnavailable _ => "Advice.JoinpointUnavailable"

/-- The name of what was thrown, which tells payloads by their sort. -/
def Thrown.kindName (cause : Thrown) : String :=
  match cause.payload with
  | none => "Thrown"
  | some payload => "Thrown." ++ payload.sort

/-- The name of an execution error. -/
def ExecutionError.kindName : ExecutionError → String
  | .weaving fault => fault.kindName
  | .advice breach => breach.kindName
  | .aspect _ => "Aspect"
  | .thrown cause => cause.kindName

/-- The name of a refusal to enable an aspect. -/
def RegistrationError.kindName : RegistrationError → String
  | .notAnAspect _ => "Registration.NotAnAspect"
  | .pointcut _ _ _ source => "Registration." ++ source.kindName
  | .duplicateId _ => "Registration.DuplicateId"

/-- A failure as a document. -/
def Json.ofFailure (kindName message : String) : Json :=
  .ofFields [("error", .string kindName), ("message", .string message)]

/-- The document of a text that is no reference. -/
def InvalidAnnotationRef.toJson (invalid : InvalidAnnotationRef) : Json :=
  .ofFailure "InvalidAnnotationRef" invalid.message

/-- The document of a pointcut failure. -/
def Pointcut.ParseError.toJson (error : Pointcut.ParseError) : Json :=
  .ofFailure error.kindName error.message

/-- The document of a configuration value of no use. -/
def EnvironmentError.toJson (error : EnvironmentError) : Json :=
  .ofFailure "Env.InvalidBoolean" error.message

/-- The document of a refusal to enable an aspect. -/
def RegistrationError.toJson (error : RegistrationError) : Json :=
  .ofFailure error.kindName error.message

/-- The document of an execution error, which says whether it is fatal. -/
def ExecutionError.toJson (error : ExecutionError) : Json :=
  .ofFields [("error", .string error.kindName), ("fatal", .bool error.isFatal),
    ("message", .string error.message)]

/-- The document of a weaving fault. -/
def WeavingError.toJson (fault : WeavingError) : Json := (ExecutionError.weaving fault).toJson

end AspectWeaving
