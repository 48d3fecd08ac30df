import AspectWeaving.Annotations.Reference
import AspectWeaving.Element.Target
import AspectWeaving.Text.Quoted
import AspectWeaving.Value

/-! Annotations, their applications, and the decorations that applications leave on elements. -/

namespace AspectWeaving

/-- A declared annotation: its reference, the kind of element it is for, and maybe a check. -/
structure AnnotationDecl (β : Type) where
  reference : AnnotationRef
  kind : ElementKind
  stub : Option β

/-- An annotation about to be put on an element, with arguments. -/
structure Application (β : Type) where
  declared : AnnotationDecl β
  args : List Value

/-- An application that an element bears. -/
structure Decoration (β : Type) where
  declared : AnnotationDecl β
  target : Target
  args : List Value

/-- The reference of a decoration's annotation. -/
def Decoration.reference {β : Type} (decoration : Decoration β) : AnnotationRef :=
  decoration.declared.reference

/-- Annotations are the same if their references are. -/
def AnnotationDecl.same {β : Type} (x y : AnnotationDecl β) : Bool := x.reference == y.reference

/-- The debug text of an annotation. -/
def AnnotationDecl.debugText {β : Type} (declared : AnnotationDecl β) : String :=
  declared.reference.text ++ " (" ++ declared.kind.text ++ ")"

/-- The debug text of an application, given those of values. -/
def Application.debugText {β : Type} (application : Application β)
    (valueText : Value → String) : String :=
  "AnnotationApplication \x7b annotation: " ++ application.declared.debugText
    ++ ", args: " ++ Text.bracketed (application.args.map valueText) ++ " \x7d"

end AspectWeaving
