import AspectWeaving.Class.Hierarchy
import AspectWeaving.Element.Kind
import AspectWeaving.Proofs.Dictionary

/-! The members of a class by their nearest declarations: a name is listed as what the first class
of the lineage that declares it declares it as. -/

namespace AspectWeaving

variable {β : Type}

/-- What a class declares a name as; a name that is both a method and a property is a method. -/
def ClassDescriptor.kindOf (descriptor : ClassDescriptor β) (name : String) : ElementKind :=
  if descriptor.methods.contains name then .method else .property

namespace ClassTable

variable {classes : ClassTable β} {id : ClassId} {name : String} {kind : ElementKind}

/-- What the first of some classes that declares a name declares it as. -/
def firstKind? (lineage : List (ClassId × ClassDescriptor β)) (name : String) :
    Option ElementKind :=
  (lineage.find? fun pair => pair.2.declares name).map fun pair => pair.2.kindOf name

/-- What the nearest class that declares a member declares it as. -/
def declaredKind? (classes : ClassTable β) (id : ClassId) (name : String) : Option ElementKind :=
  firstKind? (classes.lineage id) name

/-- The nearest declaration is that of the first class if this declares the name. -/
theorem firstKind?_cons (pair : ClassId × ClassDescriptor β)
    (rest : List (ClassId × ClassDescriptor β)) :
    firstKind? (pair :: rest) name =
      if pair.2.declares name then some (pair.2.kindOf name) else firstKind? rest name := by
  -- The search stops at the first class if this declares the name.
  unfold firstKind?
  rw [List.find?_cons]
  cases pair.2.declares name <;> rfl

namespace MemberNames

variable {names : MemberNames} {added : String}

/-- Adding a method leaves the properties as they are. -/
theorem properties_addMethod (names : MemberNames) (added : String) :
    (names.addMethod added).properties = names.properties := by
  -- A method is added to the other list, or not at all.
  unfold addMethod
  split <;> rfl

/-- A method is added where its name is not taken. -/
theorem mem_addMethod : name ∈ (names.addMethod added).methods ↔
    name ∈ names.methods ∨ name ∉ names.properties ∧ name = added := by
  -- A name that is taken is not added again.
  simp only [addMethod, contains, Bool.or_eq_true, List.contains_iff_mem]
  split
  · grind
  · simp only [List.mem_append, List.mem_singleton]
    grind

/-- Adding methods leaves the properties as they are. -/
theorem properties_addMethods (names : MemberNames) (all : List String) :
    (all.foldl addMethod names).properties = names.properties :=
  -- This is true of each method that is added.
  List.foldlRecOn (motive := fun made => made.properties = names.properties) all addMethod rfl
    fun made same added _ => (properties_addMethod made added).trans same

/-- Methods are added where their names are not taken. -/
theorem mem_addMethods {all : List String} : name ∈ (all.foldl addMethod names).methods ↔
    name ∈ names.methods ∨ name ∉ names.properties ∧ name ∈ all := by
  -- The induction is on the names that are still to be added.
  induction all generalizing names with
  | nil => simp
  | cons first rest ih =>
    rw [List.foldl_cons, ih, properties_addMethod, mem_addMethod, List.mem_cons, or_assoc,
      ← and_or_left]

/-- The names with methods and properties in each other's place. -/
def swap (names : MemberNames) : MemberNames := ⟨names.properties, names.methods⟩

/-- Adding a property is adding a method to the names the other way round. -/
theorem swap_addMethod (names : MemberNames) (added : String) :
    (names.addMethod added).swap = names.swap.addProperty added := by
  -- Whether a name is taken does not depend on what takes it.
  have taken : names.swap.contains added = names.contains added := Bool.or_comm ..
  unfold addMethod addProperty
  rw [taken]
  split <;> rfl

/-- Adding properties is adding methods to the names the other way round. -/
theorem swap_addMethods (names : MemberNames) (all : List String) :
    (all.foldl addMethod names.swap).swap = all.foldl addProperty names :=
  -- Methods and properties are added by the same rule, each in the place of the other.
  (List.foldl_hom swap fun made added => (swap_addMethod made added).symm).symm

/-- Adding properties leaves the methods as they are. -/
theorem methods_addProperties (names : MemberNames) (all : List String) :
    (all.foldl addProperty names).methods = names.methods := by
  -- This is what is known of adding methods, with the lists swapped.
  rw [← swap_addMethods]
  exact properties_addMethods names.swap all

/-- Properties are added where their names are not taken. -/
theorem mem_addProperties {all : List String} : name ∈ (all.foldl addProperty names).properties ↔
    name ∈ names.properties ∨ name ∉ names.methods ∧ name ∈ all := by
  -- This is what is known of adding methods, with the lists swapped.
  rw [← swap_addMethods]
  exact @mem_addMethods name names.swap all

/-- The methods of a class are added to those of the classes below it, unless they are taken. -/
theorem mem_methods_addMembers (descriptor : ClassDescriptor β) :
    name ∈ (names.addMembers descriptor).methods ↔ name ∈ names.methods ∨
      name ∉ names.properties ∧ descriptor.methods.contains name := by
  -- Methods are added first, and the properties leave them alone.
  rw [addMembers, methods_addProperties, mem_addMethods, Dictionary.contains_eq_true]

/-- The properties of a class come after its methods. -/
theorem mem_properties_addMembers (descriptor : ClassDescriptor β) :
    name ∈ (names.addMembers descriptor).properties ↔ name ∈ names.properties ∨
      name ∉ (names.addMembers descriptor).methods ∧ descriptor.properties.contains name := by
  -- Properties are added last, to what the methods have left.
  rw [addMembers, mem_addProperties, methods_addProperties, properties_addMethods,
    Dictionary.contains_eq_true]

end MemberNames

/-- The names of a lineage are added to those of the classes below it, each as what the nearest
class that declares it declares it as. -/
theorem mem_foldl_addMembers (lineage : List (ClassId × ClassDescriptor β)) (names : MemberNames)
    (name : String) :
    let all := lineage.foldl (fun names pair => names.addMembers pair.2) names
    (name ∈ all.methods ↔ name ∈ names.methods ∨
      name ∉ names.properties ∧ firstKind? lineage name = some .method) ∧
    (name ∈ all.properties ↔ name ∈ names.properties ∨
      name ∉ names.methods ∧ firstKind? lineage name = some .property) := by
  -- The induction is on the classes whose members are still to be added.
  induction lineage generalizing names with
  | nil => simp [firstKind?]
  | cons pair rest ih =>
    -- The first class decides on the names that it declares and leaves the others to the rest.
    simp only [List.foldl_cons, ih, firstKind?_cons, ClassDescriptor.declares,
      ClassDescriptor.kindOf, MemberNames.mem_properties_addMembers,
      MemberNames.mem_methods_addMembers]
    grind

/-- A name is listed as a method or as a property as its nearest declaration says. -/
theorem mem_memberNames :
    (name ∈ (classes.memberNames id).methods ↔
      classes.declaredKind? id name = some .method) ∧
    (name ∈ (classes.memberNames id).properties ↔
      classes.declaredKind? id name = some .property) := by
  -- The search begins without any names.
  simpa [memberNames, declaredKind?] using
    mem_foldl_addMembers (classes.lineage id) ⟨[], []⟩ name

end ClassTable

end AspectWeaving
