import AspectWeaving.Annotations.Catalog
import AspectWeaving.Annotations.Decorations
import AspectWeaving.Element.Resolution

/-! What a weaver knows about classes, their elements, and the annotations on them. -/

namespace AspectWeaving

/-- Classes, declared annotations, resolved elements and decorations. -/
structure Reflection (β : Type) where
  classes : ClassTable β
  catalog : Catalog β
  elements : ElementMemo
  decorations : Decorations β

namespace Reflection

variable {β : Type}

/-- Reflection on nothing yet. -/
def empty : Reflection β :=
  ⟨ClassTable.empty, Catalog.empty, ElementMemo.empty, Decorations.empty⟩

instance : Inhabited (Reflection β) := ⟨empty⟩

/-- Registers a class. -/
def registerClass (reflection : Reflection β) (definition : ClassDefinition β) :
    Except WeavingError ClassId × Reflection β :=
  match reflection.classes.register definition with
  | .ok (id, classes) => (.ok id, { reflection with classes })
  | .error fault => (.error fault, reflection)

/-- Discards a class and forgets its elements; its decorations stay. -/
def discardClass (reflection : Reflection β) (id : ClassId) : Reflection β :=
  { reflection with
    classes := (reflection.classes.discard id).2
    elements := (reflection.elements.forgetTargets id).forgetLocations id }

/-- Declares an annotation. -/
def declare (reflection : Reflection β) (declared : AnnotationDecl β) :
    Except WeavingError (AnnotationDecl β) × Reflection β :=
  match reflection.catalog.declare declared with
  | .ok (declared, catalog) => (.ok declared, { reflection with catalog })
  | .error fault => (.error fault, reflection)

/-- The target that an element names. -/
def resolve (reflection : Reflection β) (element : Element) :
    Except WeavingError Target × Reflection β :=
  let (result, elements) := (element.resolve reflection.classes).run.run reflection.elements
  (result, { reflection with elements })

/-- The tree of locations of a class. -/
def locateClass (reflection : Reflection β) (id : ClassId) :
    Except WeavingError ClassTree × Reflection β :=
  match reflection.elements.locations.ofClass reflection.classes id with
  | .ok (tree, locations) =>
    (.ok tree, { reflection with elements := { reflection.elements with locations } })
  | .error fault => (.error fault, reflection)

/-- The tree of locations of the class that a value is or is an instance of. -/
def locate (reflection : Reflection β) (value : Value) (classOf : InstanceId → Option ClassId)
    (className : InstanceId → String) : Except WeavingError ClassTree × Reflection β :=
  let id :=
    match value with
    | .classRef id => some id
    | .object id => classOf id
    | _ => none
  match id with
  | some id => reflection.locateClass id
  | none => (.error (.notAConstructorNorInstance (value.debugText className)), reflection)

/-- The decorations that a class shows. -/
def bundle (reflection : Reflection β) (id : ClassId) : Bundle β :=
  Bundle.ofClass reflection.decorations reflection.classes id

/-- Whether an annotation may be put on a target. -/
def checkKind (declared : AnnotationDecl β) (target : Target) : Except WeavingError Unit :=
  if declared.kind = target.kind then .ok ()
  else .error (.invalidAnnotationTarget declared.reference declared.kind target.label)

/-- Adds a decoration. -/
def record (reflection : Reflection β) (decoration : Decoration β) : Reflection β :=
  { reflection with decorations := reflection.decorations.register decoration }

end Reflection

end AspectWeaving
