import AspectWeaving.Annotations.Basic
import AspectWeaving.Error
import AspectWeaving.NamedArena

/-! The catalog of declared annotations, one for each written reference. -/

namespace AspectWeaving

/-- The declared annotations under the texts of their references. -/
structure Catalog (β : Type) where
  declarations : NamedArena (AnnotationDecl β)

namespace Catalog

variable {β : Type}

/-- The catalog without annotations. -/
def empty : Catalog β := ⟨NamedArena.empty⟩

/-- The annotation declared under a reference. -/
def find? (catalog : Catalog β) (reference : AnnotationRef) : Option (AnnotationDecl β) :=
  catalog.declarations.find? reference.text

/-- Declares an annotation; declared again for the same kind it is the one that was there. -/
def declare (catalog : Catalog β) (declared : AnnotationDecl β) :
    Except WeavingError (AnnotationDecl β × Catalog β) :=
  match catalog.find? declared.reference with
  | some existing =>
    if existing.kind = declared.kind then .ok (existing, catalog)
    else .error (.annotationKindConflict declared.reference existing.kind)
  | none =>
    let (_, declarations) := catalog.declarations.add declared.reference.text declared
    .ok (declared, ⟨declarations⟩)

end Catalog

end AspectWeaving
