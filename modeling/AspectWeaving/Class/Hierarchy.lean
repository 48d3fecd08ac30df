import AspectWeaving.Class.Table

/-! Inheritance: the ancestors of a class, and the members that it has from them. -/

namespace AspectWeaving.ClassTable

variable {β : Type}

/-- The live classes from a class upwards, at most so many. -/
def climb (table : ClassTable β) : Nat → ClassId → List ClassId
  | 0, _ => []
  | bound + 1, id =>
    match table.get? id with
    | none => []
    | some descriptor =>
      match descriptor.parent with
      -- The root has no parent, and a parent that is gone ends the climb as well.
      | none => [id]
      | some parent => id :: climb table bound parent

/-- A class and its ancestors, child first; without a cycle there are no more than slots. -/
def ancestry (table : ClassTable β) (id : ClassId) : List ClassId :=
  table.climb table.arena.slots.length id

/-- The descriptors of a class and its ancestors, with their slots. -/
def lineage (table : ClassTable β) (id : ClassId) : List (ClassId × ClassDescriptor β) :=
  (table.ancestry id).filterMap fun ancestor =>
    (table.get? ancestor).map fun descriptor => (ancestor, descriptor)

/-- Whether a class is another one or descends from it. -/
def isSubclassOf (table : ClassTable β) (id ancestor : ClassId) : Bool :=
  (table.ancestry id).contains ancestor

/-- The nearest class that declares a member. -/
def declaringClass? (table : ClassTable β) (id : ClassId) (member : String) : Option ClassId :=
  ((table.lineage id).find? fun pair => pair.2.declares member).map Prod.fst

/-- The nearest method of a name, with its class. -/
def findMethod? (table : ClassTable β) (id : ClassId) (name : String) :
    Option (ClassId × Option β) :=
  (table.lineage id).findSome? fun pair =>
    (pair.2.methods.get? name).map fun body => (pair.1, body)

/-- The nearest property of a name, with its class. -/
def findProperty? (table : ClassTable β) (id : ClassId) (name : String) :
    Option (ClassId × PropertyDescriptor β) :=
  (table.lineage id).findSome? fun pair =>
    (pair.2.properties.get? name).map fun descriptor => (pair.1, descriptor)

/-- The names of methods and of properties that a class has, each name once. -/
structure MemberNames where
  methods : List String
  properties : List String
deriving DecidableEq, Repr

namespace MemberNames

/-- Whether a name is there as a method or as a property. -/
def contains (names : MemberNames) (name : String) : Bool :=
  names.methods.contains name || names.properties.contains name

/-- Adds a method unless the name is taken. -/
def addMethod (names : MemberNames) (name : String) : MemberNames :=
  if names.contains name then names else { names with methods := names.methods ++ [name] }

/-- Adds a property unless the name is taken. -/
def addProperty (names : MemberNames) (name : String) : MemberNames :=
  if names.contains name then names
  else { names with properties := names.properties ++ [name] }

/-- Adds the members of a class, methods first. -/
def addMembers (names : MemberNames) (descriptor : ClassDescriptor β) : MemberNames :=
  descriptor.properties.keys.foldl addProperty (descriptor.methods.keys.foldl addMethod names)

end MemberNames

/-- The members that a class has, its own before those of its ancestors. -/
def memberNames (table : ClassTable β) (id : ClassId) : MemberNames :=
  (table.lineage id).foldl (fun names pair => names.addMembers pair.2) ⟨[], []⟩

end AspectWeaving.ClassTable
