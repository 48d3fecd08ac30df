import AspectWeaving.Annotations.Basic
import AspectWeaving.Class.Hierarchy

/-! The decorations of all classes, and what a class shows of its own and its ancestors'. -/

namespace AspectWeaving

/-- Decorations by location, in the order in which the locations were first decorated. -/
abbrev DecorationLayer (β : Type) : Type := Dictionary Location (List (Decoration β))

/-- Every decoration, once by class and location and once by annotation. -/
structure Decorations (β : Type) where
  byClass : Dictionary ClassId (DecorationLayer β)
  byReference : Dictionary AnnotationRef (List (Decoration β))

namespace Decorations

variable {β : Type}

/-- No decorations. -/
def empty : Decorations β := ⟨Dictionary.empty, Dictionary.empty⟩

/-- Adds a decoration behind the earlier ones. -/
def register (decorations : Decorations β) (decoration : Decoration β) : Decorations β where
  byClass := decorations.byClass.update decoration.target.owner.id fun layer =>
    (layer.getD Dictionary.empty).update decoration.target.location fun known =>
      known.getD [] ++ [decoration]
  byReference := decorations.byReference.update decoration.reference fun known =>
    known.getD [] ++ [decoration]

/-- The decorations with the given annotations, reference by reference. -/
def find (decorations : Decorations β) (references : List AnnotationRef) :
    List (Decoration β) :=
  references.flatMap fun reference => (decorations.byReference.get? reference).getD []

end Decorations

/-- What one class of a hierarchy contributes: the members it declares and its decorations. -/
structure BundleLayer (β : Type) where
  owner : ClassId
  declared : List String
  decorations : DecorationLayer β

/-- The layers of a class and its ancestors, child first. -/
structure Bundle (β : Type) where
  layers : List (BundleLayer β)

namespace Bundle

variable {β : Type}

/-- The bundle of a class as its hierarchy is decorated now. -/
def ofClass (decorations : Decorations β) (classes : ClassTable β) (id : ClassId) : Bundle β :=
  ⟨(classes.lineage id).map fun pair =>
    { owner := pair.1
      declared := pair.2.memberNames
      decorations := (decorations.byClass.get? pair.1).getD Dictionary.empty }⟩

/-- The class that a bundle is of. -/
def owner? (bundle : Bundle β) : Option ClassId := bundle.layers.head?.map BundleLayer.owner

/-- The layers, each with the members that nearer layers declare. -/
def shadows (nearer : List String) : List (BundleLayer β) → List (List String × BundleLayer β)
  | [] => []
  | layer :: rest => (nearer, layer) :: shadows (nearer ++ layer.declared) rest

/-- Whether a location is not hidden by a nearer declaration of its member. -/
def isVisible (nearer : List String) (location : Location) : Bool :=
  match location.member? with
  | none => true
  | some member => !nearer.contains member

/-- All visible decorations. -/
def all (bundle : Bundle β) : List (Decoration β) :=
  (shadows [] bundle.layers).flatMap fun (nearer, layer) =>
    (layer.decorations.entries.filter fun entry => isVisible nearer entry.1).flatMap Prod.snd

/-- The visible decorations at one place, on the nearest class only or on all of them. -/
def allAt (bundle : Bundle β) (location : Location) (searchParents : Bool) :
    List (Decoration β) :=
  let layers := if searchParents then bundle.layers else bundle.layers.take 1
  (shadows [] layers).flatMap fun (nearer, layer) =>
    let rebased := location.rebase layer.owner
    if isVisible nearer rebased then (layer.decorations.get? rebased).getD [] else []

/-- The visible decorations of elements of one kind, of one annotation if one is given. -/
def ofKind (bundle : Bundle β) (kind : ElementKind) (reference : Option AnnotationRef) :
    List (Decoration β) :=
  bundle.all.filter fun decoration =>
    decoration.target.kind == kind && reference.all fun wanted => decoration.reference == wanted

end Bundle

end AspectWeaving
