import AspectWeaving.Proofs.Class.Ancestry
import AspectWeaving.Proofs.Class.Members
import AspectWeaving.Weaver

/-! What a class has from its hierarchy, told by recursion along the parents: the nearest
declaration of a name, the names in their order, and the constructors. -/

namespace AspectWeaving

variable {β : Type}

/-- What is declared under a name: a method, without a body if it is abstract, or a property. -/
inductive Declaration (β : Type) where
  | method (body : Option β)
  | property (descriptor : PropertyDescriptor β)

/-- What a declaration declares a name as. -/
def Declaration.kind : Declaration β → ElementKind
  | .method _ => .method
  | .property _ => .property

namespace ClassDescriptor

/-- What a class itself declares under a name; a name that is both a method and a property is a
method. -/
def declaration? (descriptor : ClassDescriptor β) (name : String) : Option (Declaration β) :=
  match descriptor.methods.get? name with
  | some body => some (.method body)
  | none => (descriptor.properties.get? name).map .property

/-- The names of the members that a class itself has, each name once. -/
def ownNames (descriptor : ClassDescriptor β) : ClassTable.MemberNames where
  methods := descriptor.methods.keys
  properties := descriptor.properties.keys.filter fun name => !descriptor.methods.contains name

variable {descriptor : ClassDescriptor β} {name : String}

/-- A class declares a name if there is a declaration of it. -/
theorem declares_eq : descriptor.declares name = (descriptor.declaration? name).isSome := by
  -- A name is declared as a method, or else as a property.
  unfold declares declaration? Dictionary.contains
  cases descriptor.methods.get? name <;> simp

/-- The kind of a name that a class declares is that of the declaration. -/
theorem kindOf_eq {declaration : Declaration β}
    (declared : descriptor.declaration? name = some declaration) :
    descriptor.kindOf name = declaration.kind := by
  unfold declaration? at declared
  unfold kindOf Dictionary.contains
  cases method : descriptor.methods.get? name with
  | some body =>
    rw [method] at declared
    obtain rfl := Option.some.inj declared
    rfl
  | none =>
    rw [method] at declared
    -- Where there is no method of the name, there is a property of it.
    obtain ⟨property, _, rfl⟩ := Option.map_eq_some_iff.mp declared
    rfl

/-- A class has the names that it declares. -/
theorem contains_ownNames (descriptor : ClassDescriptor β) :
    descriptor.ownNames.contains = descriptor.declares := by
  funext name
  rw [Bool.eq_iff_iff]
  simp only [ownNames, ClassTable.MemberNames.contains, declares, Bool.or_eq_true,
    List.contains_iff_mem, List.mem_filter, ← Dictionary.contains_eq_true, Bool.not_eq_true']
  -- A property that is a method as well is among the methods.
  cases descriptor.methods.contains name <;> simp

end ClassDescriptor

namespace ClassTable

variable {classes : ClassTable β} {id other : ClassId} {path : List ClassId} {name : String}
  {declaration : Declaration β} {descriptor : ClassDescriptor β}

/-- What the nearest class that declares a name declares: the class itself, or else what the nearest
one above it declares. -/
inductive Nearest (classes : ClassTable β) (name : String) : ClassId → Declaration β → Prop where
  | own {id : ClassId} {descriptor : ClassDescriptor β} {declaration : Declaration β}
      (live : classes.get? id = some descriptor)
      (declared : descriptor.declaration? name = some declaration) :
      Nearest classes name id declaration
  | inherited {id parent : ClassId} {descriptor : ClassDescriptor β}
      {declaration : Declaration β} (live : classes.get? id = some descriptor)
      (absent : descriptor.declaration? name = none) (below : descriptor.parent = some parent)
      (above : Nearest classes name parent declaration) : Nearest classes name id declaration

/-- The constructors from the root down to a class, of the classes that have one. -/
inductive Constructors (classes : ClassTable β) : ClassId → List β → Prop where
  | root {id : ClassId} {descriptor : ClassDescriptor β}
      (live : classes.get? id = some descriptor) (top : descriptor.parent = none) :
      Constructors classes id descriptor.initializer.toList
  | child {id parent : ClassId} {descriptor : ClassDescriptor β} {chain : List β}
      (live : classes.get? id = some descriptor) (below : descriptor.parent = some parent)
      (above : Constructors classes parent chain) :
      Constructors classes id (chain ++ descriptor.initializer.toList)

/-- The lineage of a class without a parent is the class. -/
theorem lineage_of_root (live : classes.get? id = some descriptor)
    (top : descriptor.parent = none) : classes.lineage id = [(id, descriptor)] := by
  -- The way from a root is the root alone.
  unfold lineage
  rw [(Climbs.root live top).ancestry_eq]
  simp [live]

/-- The lineage of a child is the class and then the lineage of its parent. -/
theorem lineage_of_child {parent : ClassId} (live : classes.get? id = some descriptor)
    (below : descriptor.parent = some parent) (climbs : classes.Climbs parent path) :
    classes.lineage id = (id, descriptor) :: classes.lineage parent := by
  -- The way from a child goes on with that of its parent.
  unfold lineage
  rw [(Climbs.child live below climbs).ancestry_eq, climbs.ancestry_eq]
  simp [live]

/-- What the first of some classes that declares a name declares. -/
def firstDeclaration? (lineage : List (ClassId × ClassDescriptor β)) (name : String) :
    Option (Declaration β) :=
  lineage.findSome? fun pair => pair.2.declaration? name

/-- The nearest declaration is the first one in the lineage. -/
theorem Climbs.nearest_iff (climbs : classes.Climbs id path) :
    classes.Nearest name id declaration ↔
      firstDeclaration? (classes.lineage id) name = some declaration := by
  unfold firstDeclaration?
  -- The induction is on the way up; each class on it either declares the name or passes it on.
  induction climbs with
  | @root id descriptor live top =>
    rw [lineage_of_root live top, List.findSome?_singleton]
    -- At the root there is nothing to inherit from.
    constructor
    · intro nearest
      cases nearest with
      | own live' declared => rwa [Option.some.inj (live.symm.trans live')]
      | inherited live' _ below _ =>
        rw [← Option.some.inj (live.symm.trans live'), top] at below
        contradiction
    · exact .own live
  | @child id parent descriptor path live below climbs ih =>
    rw [lineage_of_child live below climbs, List.findSome?_cons]
    cases own : descriptor.declaration? name with
    | some declared =>
      -- What the class declares hides whatever is declared above it.
      constructor
      · intro nearest
        cases nearest with
        | own live' again =>
          rw [← Option.some.inj (live.symm.trans live'), own] at again
          exact again
        | inherited live' absent _ _ =>
          rw [← Option.some.inj (live.symm.trans live'), own] at absent
          contradiction
      · intro found
        exact .own live (own.trans found)
    | none =>
      -- What the class does not declare is declared above it or nowhere.
      rw [← ih]
      constructor
      · intro nearest
        cases nearest with
        | own live' declared =>
          rw [← Option.some.inj (live.symm.trans live'), own] at declared
          contradiction
        | inherited live' _ below' above =>
          rw [← Option.some.inj (live.symm.trans live'), below, Option.some.injEq] at below'
          rwa [below']
      · exact .inherited live own below

/-- A name is declared as what its first declaration is. -/
theorem firstKind?_eq (lineage : List (ClassId × ClassDescriptor β)) (name : String) :
    firstKind? lineage name = (firstDeclaration? lineage name).map Declaration.kind := by
  -- The induction is on the lineage; both searches stop at the same class.
  induction lineage with
  | nil => rfl
  | cons pair rest ih =>
    rw [firstKind?_cons, ih, firstDeclaration?, firstDeclaration?, List.findSome?_cons,
      ClassDescriptor.declares_eq]
    cases own : pair.2.declaration? name with
    | none => rfl
    | some declared => simp [ClassDescriptor.kindOf_eq own]

/-- A search that can end only where another one does ends there as well. -/
theorem exists_findSome?_eq {ι γ δ : Type} {items : List ι} {test : ι → Option γ}
    {search : ι → Option δ} {found : γ} {good : δ → Prop}
    (first : items.findSome? test = some found)
    (here : ∀ item, test item = some found → ∃ result, search item = some result ∧ good result)
    (past : ∀ item, test item = none → search item = none) :
    ∃ result, items.findSome? search = some result ∧ good result := by
  -- The induction is on the items that are still to be searched.
  induction items with
  | nil => contradiction
  | cons item rest ih =>
    rw [List.findSome?_cons] at first ⊢
    cases tested : test item with
    | some ended =>
      rw [tested] at first
      obtain ⟨result, same, right⟩ := here item (tested.trans first)
      exact ⟨result, by rw [same], right⟩
    | none =>
      rw [tested] at first
      rw [past item tested]
      exact ih first

/-- A name that is not declared is neither that of a method nor that of a property. -/
theorem get?_of_declaration?_eq_none (absent : descriptor.declaration? name = none) :
    descriptor.methods.get? name = none ∧ descriptor.properties.get? name = none := by
  -- A member is looked for among the methods first, and then among the properties.
  unfold ClassDescriptor.declaration? at absent
  split at absent
  · contradiction
  · next method => exact ⟨method, Option.map_eq_none_iff.mp absent⟩

/-- Looking for a method finds the nearest declaration of a name that is declared as one, although
the search passes over the properties of the name. -/
theorem Climbs.findMethod?_of_nearest (climbs : classes.Climbs id path) {body : Option β}
    (nearest : classes.Nearest name id (.method body)) :
    ∃ found, classes.findMethod? id name = some found ∧ found.2 = body := by
  have first := climbs.nearest_iff.mp nearest
  -- The search ends where the nearest declaration is, since nothing is declared before it.
  refine exists_findSome?_eq first (fun pair declared => ?_) fun pair absent => ?_
  · unfold ClassDescriptor.declaration? at declared
    split at declared
    · next held method =>
      cases declared
      exact ⟨(pair.1, body), by rw [method]; rfl, rfl⟩
    · obtain ⟨_, _, other⟩ := Option.map_eq_some_iff.mp declared
      contradiction
  · rw [(get?_of_declaration?_eq_none absent).1]
    rfl

/-- Looking for a property finds the nearest declaration of a name that is declared as one. -/
theorem Climbs.findProperty?_of_nearest (climbs : classes.Climbs id path)
    {property : PropertyDescriptor β} (nearest : classes.Nearest name id (.property property)) :
    ∃ found, classes.findProperty? id name = some found ∧ found.2 = property := by
  have first := climbs.nearest_iff.mp nearest
  refine exists_findSome?_eq first (fun pair declared => ?_) fun pair absent => ?_
  · unfold ClassDescriptor.declaration? at declared
    split at declared
    -- The nearest class would have the name as a method first.
    · cases declared
    · obtain ⟨held, found, same⟩ := Option.map_eq_some_iff.mp declared
      cases same
      exact ⟨(pair.1, property), by rw [found]; rfl, rfl⟩
  · rw [(get?_of_declaration?_eq_none absent).2]
    rfl

/-- The natural symbol of a method is the body of its nearest declaration, if that has one. -/
theorem Climbs.naturalMethod_eq (climbs : classes.Climbs id path) {body : Option β}
    (nearest : classes.Nearest name id (.method body)) :
    Weaver.naturalMethod classes id name = body.map .method := by
  -- The natural symbol is the body that the nearest declaration has, if it has one.
  obtain ⟨found, same, rfl⟩ := climbs.findMethod?_of_nearest nearest
  unfold Weaver.naturalMethod
  rw [same]
  rfl

/-- The natural symbol of a property is its nearest declaration. -/
theorem Climbs.naturalProperty_eq (climbs : classes.Climbs id path)
    {property : PropertyDescriptor β} (nearest : classes.Nearest name id (.property property)) :
    Weaver.naturalProperty classes id name = some (.property property) := by
  -- The natural symbol is the property of the nearest declaration.
  obtain ⟨found, same, rfl⟩ := climbs.findProperty?_of_nearest nearest
  unfold Weaver.naturalProperty
  rw [same]
  rfl

/-- The constructors of the lineage, root first, are those from the root down. -/
theorem Climbs.constructors (climbs : classes.Climbs id path) :
    classes.Constructors id
      ((classes.lineage id).reverse.filterMap fun pair => pair.2.initializer) := by
  -- The induction is on the way up; the constructors above a class are called before its own.
  induction climbs with
  | @root id descriptor live top =>
    rw [lineage_of_root live top]
    have only : [(id, descriptor)].reverse.filterMap (fun pair => pair.2.initializer) =
        descriptor.initializer.toList := by
      cases held : descriptor.initializer <;> simp [held]
    exact only ▸ .root live top
  | @child id parent descriptor path live below climbs ih =>
    rw [lineage_of_child live below climbs, List.reverse_cons, List.filterMap_append]
    -- The class itself comes last.
    have last : [(id, descriptor)].filterMap (fun pair => pair.2.initializer) =
        descriptor.initializer.toList := by
      cases held : descriptor.initializer <;> simp [held]
    exact last ▸ .child live below ih

/-- The way up from a class passes the class and its ancestors. -/
theorem Climbs.mem_iff (climbs : classes.Climbs id path) :
    other ∈ path ↔ Relation.ReflTransGen classes.ParentOf id other := by
  constructor
  · intro member
    -- A class that is passed later is above the parent.
    induction climbs with
    | root live top =>
      obtain rfl := List.mem_singleton.mp member
      exact .refl
    | child live below climbs ih =>
      rcases List.mem_cons.mp member with rfl | later
      · exact .refl
      · exact .head ⟨_, live, below⟩ (ih later)
  · intro above
    -- The induction is on the steps up from the class, and the way takes the same ones.
    induction above using Relation.ReflTransGen.head_induction_on generalizing path with
    | refl => exact climbs.mem_self
    | head step _ ih =>
      obtain ⟨descriptor, live, parentage⟩ := step
      cases climbs with
      | root live' top =>
        rw [Option.some.inj (live'.symm.trans live), parentage] at top
        contradiction
      | child live' below climbs =>
        rw [Option.some.inj (live'.symm.trans live), parentage, Option.some.injEq] at below
        subst below
        exact List.mem_cons_of_mem _ (ih climbs)

namespace MemberNames

variable {names more : MemberNames} {taken : String → Bool}

/-- Names with others behind them. -/
def followedBy (names more : MemberNames) : MemberNames :=
  ⟨names.methods ++ more.methods, names.properties ++ more.properties⟩

/-- The names that are not taken. -/
def without (names : MemberNames) (taken : String → Bool) : MemberNames :=
  ⟨names.methods.filter fun name => !taken name, names.properties.filter fun name => !taken name⟩

/-- No name is there twice, and none as a method and as a property. -/
def Distinct (names : MemberNames) : Prop := (names.methods ++ names.properties).Nodup

/-- A name is there if it is there as a method or as a property. -/
theorem contains_eq_true {name : String} :
    names.contains name = true ↔ name ∈ names.methods ∨ name ∈ names.properties := by
  simp only [contains, Bool.or_eq_true, List.contains_iff_mem]

/-- A name is there if it is in one part or in the other. -/
theorem contains_followedBy (name : String) : (names.followedBy more).contains name =
    (names.contains name || more.contains name) := by
  -- A name is in one of the four lists, in whichever order these are asked.
  rw [Bool.eq_iff_iff, Bool.or_eq_true, contains_eq_true, contains_eq_true, contains_eq_true]
  simp only [followedBy, List.mem_append]
  exact or_or_or_comm

/-- A name is left if it was there and is not taken. -/
theorem contains_without (name : String) :
    (names.without taken).contains name = (names.contains name && !taken name) := by
  -- Names are left out of both lists by the same test.
  rw [Bool.eq_iff_iff, Bool.and_eq_true, contains_eq_true, contains_eq_true]
  simp only [without, List.mem_filter]
  exact or_and_right.symm

/-- Adding the methods of a class puts those whose names are not taken at the end. -/
theorem addMethods_eq {all : List String} (nodup : all.Nodup) (names : MemberNames) :
    all.foldl addMethod names =
      ⟨names.methods ++ all.filter (fun name => !names.contains name), names.properties⟩ := by
  -- The induction is on the names that are still to be added.
  induction all generalizing names with
  | nil => simp
  | cons first rest ih =>
    obtain ⟨apart, nodup⟩ := List.nodup_cons.mp nodup
    rw [List.foldl_cons, ih nodup, List.filter_cons]
    unfold addMethod
    cases known : names.contains first with
    | true => rfl
    | false =>
      -- The first name is not added again, and so it does not matter that it is there now.
      have same : rest.filter (fun name =>
          !(⟨names.methods ++ [first], names.properties⟩ : MemberNames).contains name) =
          rest.filter fun name => !names.contains name := by
        refine List.filter_congr fun name member => ?_
        have different : name ≠ first := fun same => apart (same ▸ member)
        simp [contains, different]
      simp [same]

/-- Adding the members of a class puts those whose names are not taken at the end. -/
theorem addMembers_eq (names : MemberNames) (descriptor : ClassDescriptor β) :
    names.addMembers descriptor =
      names.followedBy (descriptor.ownNames.without names.contains) := by
  -- The methods go first, and what they add is taken for the properties.
  have methods : descriptor.methods.keys.Nodup := descriptor.methods.nodup
  have properties : descriptor.properties.keys.Nodup := descriptor.properties.nodup
  unfold addMembers
  rw [← swap_addMethods, addMethods_eq methods, addMethods_eq properties]
  simp only [swap, followedBy, without, ClassDescriptor.ownNames, List.filter_filter,
    MemberNames.mk.injEq, List.append_cancel_left_eq, true_and]
  -- A property is not added if a method of its name is there, own or not.
  refine List.filter_congr fun name _ => ?_
  rw [Bool.eq_iff_iff, Bool.and_eq_true, Bool.not_eq_true', Bool.not_eq_true', Bool.not_eq_true']
  simp only [← Bool.not_eq_true, contains_eq_true, List.mem_append, List.mem_filter,
    Dictionary.contains_eq_true]
  have taken := @contains_eq_true names name
  grind

/-- Names behind names behind names. -/
theorem followedBy_assoc (names more last : MemberNames) :
    (names.followedBy more).followedBy last = names.followedBy (more.followedBy last) := by
  -- Both lists are put together from three.
  simp [followedBy]

/-- What is taken is taken from both parts. -/
theorem without_followedBy (names more : MemberNames) (taken : String → Bool) :
    (names.followedBy more).without taken =
      (names.without taken).followedBy (more.without taken) := by
  -- Names can be left out before the lists are put together.
  simp [followedBy, without]

/-- What is taken may be taken in two turns. -/
theorem without_without (names : MemberNames) (first second : String → Bool) :
    (names.without first).without second =
      names.without fun name => first name || second name := by
  -- A name is left out if either test says so.
  simp [without, List.filter_filter, Bool.and_comm]

/-- A class that is added first is added with all its own names. -/
theorem addMembers_nil (descriptor : ClassDescriptor β) :
    (⟨[], []⟩ : MemberNames).addMembers descriptor = descriptor.ownNames := by
  -- Nothing is taken yet.
  rw [addMembers_eq]
  simp [followedBy, without, contains]

/-- Adding the members of some classes puts those whose names are not taken at the end. -/
theorem foldl_addMembers (lineage : List (ClassId × ClassDescriptor β)) (names : MemberNames) :
    lineage.foldl (fun made pair => made.addMembers pair.2) names =
      names.followedBy ((lineage.foldl (fun made pair => made.addMembers pair.2)
        (⟨[], []⟩ : MemberNames)).without names.contains) := by
  -- The induction is on the classes that are still to be added.
  induction lineage generalizing names with
  | nil => simp [followedBy, without]
  | cons pair rest ih =>
    -- A name is taken by the names that were there or by the class that is added first.
    have taken : (names.followedBy (pair.2.ownNames.without names.contains)).contains =
        fun name => pair.2.ownNames.contains name || names.contains name := by
      funext name
      rw [contains_followedBy, contains_without]
      cases names.contains name <;> simp
    rw [List.foldl_cons, ih, List.foldl_cons, ih (addMembers ⟨[], []⟩ pair.2), addMembers_nil,
      addMembers_eq, taken, without_followedBy, followedBy_assoc, without_without]

/-- Names that are not taken can be put behind distinct ones. -/
theorem Distinct.followedBy (first : names.Distinct) (second : more.Distinct) :
    (names.followedBy (more.without names.contains)).Distinct := by
  -- A name of the second part is none of the first, neither of its methods nor of its properties.
  unfold Distinct MemberNames.followedBy without at *
  obtain ⟨methods, properties, apart⟩ := List.nodup_append.mp first
  obtain ⟨methods', properties', apart'⟩ := List.nodup_append.mp second
  have taken := @contains_eq_true names
  grind

end MemberNames

/-- A class's own names are distinct. -/
theorem distinct_ownNames (descriptor : ClassDescriptor β) : descriptor.ownNames.Distinct := by
  refine List.nodup_append.mpr
    ⟨descriptor.methods.nodup, descriptor.properties.nodup.filter _, fun method listed => ?_⟩
  rintro property member rfl
  -- Of the properties those are left whose names are not those of methods.
  have absent := (List.mem_filter.mp member).2
  rw [Dictionary.contains_eq_true.mpr listed] at absent
  contradiction

/-- The names of the members that a class has, methods and properties: its own ones, and then those
of its parent that it does not declare anew. -/
inductive Lists (classes : ClassTable β) : ClassId → MemberNames → Prop where
  | root {id : ClassId} {descriptor : ClassDescriptor β}
      (live : classes.get? id = some descriptor) (top : descriptor.parent = none) :
      Lists classes id descriptor.ownNames
  | child {id parent : ClassId} {descriptor : ClassDescriptor β} {inherited : MemberNames}
      (live : classes.get? id = some descriptor) (below : descriptor.parent = some parent)
      (above : Lists classes parent inherited) :
      Lists classes id (descriptor.ownNames.followedBy (inherited.without descriptor.declares))

/-- The names that a class lists are those that its hierarchy gives it. -/
theorem Climbs.lists (climbs : classes.Climbs id path) :
    classes.Lists id (classes.memberNames id) := by
  unfold memberNames
  -- The induction is on the way up, where the walk over the rest is the one for the parent.
  induction climbs with
  | root live top =>
    rw [lineage_of_root live top, List.foldl_cons, List.foldl_nil, MemberNames.addMembers_nil]
    exact .root live top
  | @child id parent descriptor path live below climbs ih =>
    rw [lineage_of_child live below climbs, List.foldl_cons, MemberNames.foldl_addMembers,
      MemberNames.addMembers_nil, descriptor.contains_ownNames]
    exact .child live below ih

/-- No name is listed twice, and none as a method and as a property. -/
theorem Lists.distinct {names : MemberNames} (lists : classes.Lists id names) :
    names.Distinct := by
  induction lists with
  | root => exact distinct_ownNames _
  | @child _ _ descriptor _ _ _ _ ih =>
    -- What the class declares is what its own names contain.
    rw [← descriptor.contains_ownNames]
    exact (distinct_ownNames _).followedBy ih

/-- A name is listed as a method or as a property as its nearest declaration says. -/
theorem Climbs.mem_memberNames_iff (climbs : classes.Climbs id path) :
    (name ∈ (classes.memberNames id).methods ↔ ∃ body, classes.Nearest name id (.method body)) ∧
    (name ∈ (classes.memberNames id).properties ↔
      ∃ property, classes.Nearest name id (.property property)) := by
  rw [mem_memberNames.1, mem_memberNames.2, declaredKind?, firstKind?_eq]
  simp only [climbs.nearest_iff]
  -- Nothing is declared under the name, or a method, or a property.
  rcases firstDeclaration? (classes.lineage id) name with _ | _ | _ <;> simp [Declaration.kind]

end ClassTable

end AspectWeaving
