import AspectWeaving.Dictionary
import AspectWeaving.Identity
import AspectWeaving.Symbol
import AspectWeaving.Text.Quoted

/-! Classes as they are defined and as they are kept. -/

namespace AspectWeaving

/-- What a class is made of; a method without a body is abstract. -/
structure ClassDefinition (β : Type) where
  name : String
  parent : Option ClassId
  initializer : Option β
  methods : Dictionary String (Option β)
  properties : Dictionary String (PropertyDescriptor β)

/-- A registered class: its definition, and the reference that tells it from its homonyms. -/
structure ClassDescriptor (β : Type) extends ClassDefinition β where
  reference : String

namespace ClassDescriptor

variable {β : Type}

/-- Whether a class itself has a member of a name. -/
def declares (descriptor : ClassDescriptor β) (member : String) : Bool :=
  descriptor.methods.contains member || descriptor.properties.contains member

/-- The names of the members that a class itself has, methods first. -/
def memberNames (descriptor : ClassDescriptor β) : List String :=
  descriptor.methods.keys ++ descriptor.properties.keys

/-- The debug text of a class. -/
def debugText (descriptor : ClassDescriptor β) : String :=
  let parent :=
    match descriptor.parent with
    | none => "None"
    | some id => "Some(" ++ toString id.number ++ ")"
  "ClassDescriptor \x7b reference: " ++ Text.quoted descriptor.reference
    ++ ", parent: " ++ parent
    ++ ", methods: " ++ Text.bracketed (descriptor.methods.keys.map Text.quoted)
    ++ ", properties: " ++ Text.bracketed (descriptor.properties.keys.map Text.quoted) ++ " \x7d"

end ClassDescriptor

end AspectWeaving
