import AspectWeaving.Pointcut.Expression

/-! Reading pointcut expressions: annotations joined by bars, the words for a scope, a pattern. -/

namespace AspectWeaving.Pointcut

/-- Why a text is no pointcut expression. -/
inductive ParseError where
  | empty
  | invalidReference (invalid : InvalidAnnotationRef)
  | unknownScope (words : String)
  | trailingInput (token expression : String)
deriving DecidableEq, Repr

/-- What a text that is no pointcut expression is answered with. -/
def ParseError.message : ParseError → String
  | .empty => "Empty pointcut expression"
  | .invalidReference invalid => invalid.message
  | .unknownScope words =>
    "Unknown element kind `" ++ words ++ "` in pointcut expression, expected one of: "
      ++ "class, method, property, get property, set property, parameter, any"
  | .trailingInput token expression =>
    "Unexpected `" ++ token ++ "` at the end of pointcut expression `" ++ expression ++ "`"

/-- Whether a token belongs to the annotations in front of the scope. -/
def opensReference (token : List Char) : Bool :=
  token.head? == some '@' || token.head? == some '|'

/-- Reads the annotations joined by bars. -/
def parseAnnotations (joined : List Char) : Except ParseError (List AnnotationRef) :=
  (Text.parts (· == '|') joined).mapM fun part =>
    (AnnotationRef.parse (String.ofList part)).mapError .invalidReference

/-- Reads the words for a scope off the front of the tokens. -/
def parseScope : List String → Except ParseError (Scope × List String)
  | [] => .error .empty
  | "class" :: rest => .ok (.classType, rest)
  | "method" :: rest => .ok (.method, rest)
  | "property" :: rest => .ok (.getProperty, rest)
  | "parameter" :: rest => .ok (.parameter, rest)
  | "any" :: rest => .ok (.any, rest)
  | "get" :: "property" :: rest => .ok (.getProperty, rest)
  | "set" :: "property" :: rest => .ok (.setProperty, rest)
  | "get" :: rest => .error (.unknownScope ("get " ++ rest.headD ""))
  | "set" :: rest => .error (.unknownScope ("set " ++ rest.headD ""))
  | word :: _ => .error (.unknownScope word)

/-- Reads the name pattern, which is last and may be left out. -/
def parsePattern (expression : String) : List String → Except ParseError String
  | [] => .ok "*"
  | [pattern] => .ok pattern
  | _ :: token :: _ => .error (.trailingInput token expression)

/-- Reads a pointcut expression; faults are reported from left to right. -/
def Expression.parse (text : String) : Except ParseError Expression := do
  let tokens := Text.words text.toList
  let annotations ← parseAnnotations (tokens.takeWhile opensReference).flatten
  -- The first token that is no annotation starts the scope.
  let (scope, rest) ← parseScope ((tokens.dropWhile opensReference).map String.ofList)
  let name ← parsePattern text rest
  return Expression.of scope annotations name

end AspectWeaving.Pointcut
