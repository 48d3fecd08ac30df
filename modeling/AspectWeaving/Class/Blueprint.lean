import AspectWeaving.Annotations.Basic
import AspectWeaving.Class.Basic

/-! Blueprints: classes as they are put together before they are built. -/

namespace AspectWeaving

/-- A place on a class that does not exist yet. -/
inductive Place where
  | whole
  | member (name : String)
  | parameter (method : String) (index : Nat)
deriving DecidableEq, Repr

/-- The element at a place on a class. -/
def Place.on (place : Place) (id : ClassId) : Element :=
  match place with
  | .whole => .ofClass id
  | .member name => .ofMember id name
  | .parameter method index => .ofParameter id method index

/-- A class to be built: its definition, the first member declared twice, and its annotations. -/
structure Blueprint (β : Type) where
  definition : ClassDefinition β
  duplicate : Option String
  annotations : List (Place × Application β)

namespace Blueprint

variable {β : Type}

/-- The blueprint of a class without anything in it. -/
def named (name : String) : Blueprint β :=
  ⟨⟨name, none, none, Dictionary.empty, Dictionary.empty⟩, none, []⟩

/-- Makes the class a child of another one. -/
def extend (blueprint : Blueprint β) (parent : ClassId) : Blueprint β :=
  { blueprint with definition := { blueprint.definition with parent := some parent } }

/-- Gives the class a constructor. -/
def withInitializer (blueprint : Blueprint β) (body : β) : Blueprint β :=
  { blueprint with definition := { blueprint.definition with initializer := some body } }

/-- Notes a member as declared twice if it is there and none was noted before. -/
def noteMember (blueprint : Blueprint β) (name : String) : Blueprint β :=
  let known := blueprint.definition.methods.contains name
    || blueprint.definition.properties.contains name
  if blueprint.duplicate.isNone && known then { blueprint with duplicate := some name }
  else blueprint

/-- Declares a method; without a body it is abstract. -/
def withMethod (blueprint : Blueprint β) (name : String) (body : Option β) : Blueprint β :=
  let noted := blueprint.noteMember name
  { noted with
    definition :=
      { noted.definition with methods := noted.definition.methods.insert name body } }

/-- Declares a property. -/
def withProperty (blueprint : Blueprint β) (name : String) (descriptor : PropertyDescriptor β) :
    Blueprint β :=
  let noted := blueprint.noteMember name
  { noted with
    definition :=
      { noted.definition with properties := noted.definition.properties.insert name descriptor } }

/-- Puts an annotation on a place of the class. -/
def annotate (blueprint : Blueprint β) (place : Place) (application : Application β) :
    Blueprint β :=
  { blueprint with annotations := blueprint.annotations ++ [(place, application)] }

end Blueprint

end AspectWeaving
