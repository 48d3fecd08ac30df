import AspectWeaving.Annotations.Reference
import AspectWeaving.Distinct
import AspectWeaving.Element.Kind
import AspectWeaving.Pointcut.Glob

/-! Pointcut expressions: which elements an advice applies to, by scope, annotations and name. -/

namespace AspectWeaving.Pointcut

/-- The sort of element that an expression selects. -/
inductive Scope where
  | classType
  | method
  | getProperty
  | setProperty
  | parameter
  | any
deriving DecidableEq, Repr, Inhabited

namespace Scope

/-- Every scope, in the order that sorting keeps. -/
def all : List Scope := [.classType, .method, .getProperty, .setProperty, .parameter, .any]

/-- The words for a scope. -/
def text : Scope → String
  | .classType => "class"
  | .method => "method"
  | .getProperty => "get property"
  | .setProperty => "set property"
  | .parameter => "parameter"
  | .any => "any"

/-- The scope that its canonical words stand for. -/
def ofText? (text : String) : Option Scope := all.find? fun scope => scope.text == text

/-- The place of a scope in the order of scopes. -/
def rank : Scope → Nat
  | .classType => 0
  | .method => 1
  | .getProperty => 2
  | .setProperty => 3
  | .parameter => 4
  | .any => 5

/-- Whether a scope covers an element; `any` covers all of them. -/
def accepts (scope element : Scope) : Bool := scope == .any || scope == element

/-- The kind of annotation that elements of a scope carry. -/
def elementKind? : Scope → Option ElementKind
  | .classType => some .classType
  | .method => some .method
  | .getProperty | .setProperty => some .property
  | .parameter => some .parameter
  | .any => none

end Scope

/-- An expression: its scope, the annotations of which one is required, and a name pattern. -/
structure Expression where
  scope : Scope
  annotations : List AnnotationRef
  name : String
  nodup : annotations.Nodup
deriving DecidableEq

namespace Expression

/-- The expression with the given parts; a repeated annotation counts once. -/
def of (scope : Scope) (annotations : List AnnotationRef) (name : String) : Expression :=
  ⟨scope, distinct annotations, name, nodup_distinct annotations⟩

/-- The canonical text of an expression. -/
def text (expression : Expression) : String :=
  let references := expression.annotations.map AnnotationRef.text
  (if references.isEmpty then "" else "|".intercalate references ++ " ")
    ++ expression.scope.text ++ " " ++ expression.name

/-- Whether an expression selects an element with a name and annotations. -/
def selects (expression : Expression) (element : Scope) (name : String)
    (annotations : List AnnotationRef) : Bool :=
  expression.scope.accepts element && Glob.accepts expression.name name
    && (expression.annotations.isEmpty
      || annotations.any fun reference => expression.annotations.contains reference)

end Expression

end AspectWeaving.Pointcut
