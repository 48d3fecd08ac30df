import AspectWeaving.Proofs.Class.Members
import AspectWeaving.Proofs.Class.Woven
import AspectWeaving.Proofs.Element.Identity
import AspectWeaving.Proofs.Element.Success

/-! The kind of a member: lists of names and the slots of a woven class go by the nearest
declaration, and so does resolving, except where a property is declared below a method of its name.
-/

namespace AspectWeaving

open Element Resolving

variable {β α γ : Type} {classes : ClassTable β} {reflection : Reflection β} {id : ClassId}
  {name : String} {kind : ElementKind} {element : Element} {target : Target}

/-- A declared member is one that can be found as what it is declared as. -/
theorem ClassTable.find_of_declaredKind? (declared : classes.declaredKind? id name = some kind) :
    kind = .method ∧ (classes.findMethod? id name).isSome ∨
      kind = .property ∧ (classes.findProperty? id name).isSome := by
  have backed := classes.backed_memberNames id
  have two : kind = .method ∨ kind = .property := by
    obtain ⟨pair, _, rfl⟩ := Option.map_eq_some_iff.mp declared
    unfold ClassDescriptor.kindOf
    split <;> simp
  -- What is listed as a method or as a property can be found as such.
  rcases two with rfl | rfl
  · exact .inl ⟨rfl, backed.methods name (mem_memberNames.1.mpr declared)⟩
  · exact .inr ⟨rfl, backed.properties name (mem_memberNames.2.mpr declared)⟩

/-- A declared member is known as what it is declared as, if it is no property below a method. -/
theorem Element.knownAs_of_declaredKind? (declared : classes.declaredKind? id name = some kind)
    (apart : ¬ (kind = .property ∧ (classes.findMethod? id name).isSome)) :
    (ofMember id name).KnownAs classes kind := by
  -- A method is found as one; a property is too, unless a method hides it.
  rcases ClassTable.find_of_declaredKind? declared with ⟨rfl, has⟩ | ⟨rfl, has⟩
  · exact .method has
  · exact .property (by simpa using apart) has

/-- A member that is known as something is known as a method if there is a method of its name. -/
theorem Element.KnownAs.isSome_findMethod?_iff (known : (ofMember id name).KnownAs classes kind) :
    (classes.findMethod? id name).isSome ↔ kind = .method := by
  -- A member is known as a property only if no method is found.
  cases known with
  | method has => simpa using has
  | property lacks has => simpa using lacks

/-- An element that clashes with no other one has its reference for itself. -/
def Element.Unspelled (element : Element) (classes : ClassTable β) : Prop :=
  ∀ other, ¬ element.Clash classes other

/-- A member whose name has no closing bracket has its reference for itself. -/
theorem Element.unspelled_of_notMem (closed : ']' ∉ name.toList) :
    (ofMember id name).Unspelled classes := by
  rintro other (spells | spells)
  · -- The name of a method that spells a place has the bracket of the place.
    generalize same : ofMember id name = method at spells
    cases spells with
    | place _ _ =>
      obtain rfl : name = _ := Option.some.inj (congrArg Element.member same)
      exact closed (by simp [Target.placeName])
  · generalize same : ofMember id name = parameter at spells
    cases spells
    cases congrArg Element.index same

/-- A target is of the kind of an element, unless this clashes with another one. -/
def Target.Fits (target : Target) (classes : ClassTable β) (element : Element) : Prop :=
  ∀ ⦃kind⦄, element.KnownAs classes kind → element.Unspelled classes → target.kind = kind

namespace Reflection

/-- A target that answers for an element without a clash is of the kind that the element is of. -/
theorem Sound.kind_eq (sound : reflection.Sound) (answers : reflection.Answers element target)
    (known : element.KnownAs reflection.classes kind)
    (unspelled : element.Unspelled reflection.classes) : target.kind = kind := by
  -- The target is of what its own element is known as, and this is the element unless they clash.
  have recognised : target.element.KnownAs reflection.classes target.kind := by
    obtain ⟨reference, _, found⟩ := answers
    exact sound.recognises found
  rcases (sound.tells answers answers).carries with same | clash
  · rw [same] at recognised
    exact recognised.kind_eq known
  · exact absurd clash.symm (unspelled _)

/-- Resolving finds a target of the kind that the element is of, unless the element clashes. -/
theorem keeps_kind (element : Element) :
    Resolving.Keeps (fun memo => Sound { reflection with elements := memo })
      (element.resolve reflection.classes) fun target _ =>
        target.Fits reflection.classes element := by
  -- What resolving gives is remembered for the element, and so it has its kind.
  intro before result after sound ran
  have left := sound.resolve element
  have ends : ({ reflection with elements := before } : Reflection β).resolve element =
      (result, { reflection with elements := after }) := by
    simp only [resolve, ran]
  rw [ends] at left
  refine ⟨left, fun target same kind known unspelled => ?_⟩
  have answers : ({ reflection with elements := after } : Reflection β).Answers element target := by
    have found := sound.answers ((congrArg Prod.fst ends).trans same)
    rwa [ends] at found
  exact left.kind_eq answers known unspelled

end Reflection

namespace Weaver

/-- Slots that are there for the members with these names, with targets of the members' kinds. -/
structure SlotsFit (slots : Dictionary String (Slot β)) (classes : ClassTable β) (id : ClassId)
    (names : List String) : Prop where
  listed : ∀ name, (slots.get? name).isSome ↔ name ∈ names
  fits : ∀ ⦃name slot⦄, slots.get? name = some slot →
    slot.target.Fits classes (ofMember id name)

/-- Slots for the members of one kind: a member has one exactly if it is of the kind. -/
theorem SlotsFit.map_kind {slots : Dictionary String (Slot β)} {names : List String}
    (fit : SlotsFit slots classes id names) (known : (ofMember id name).KnownAs classes kind)
    (unspelled : (ofMember id name).Unspelled classes) {slotted : ElementKind}
    (listed : name ∈ names ↔ kind = slotted) :
    (slots.get? name).map (fun slot => slot.target.kind) =
      if kind = slotted then some slotted else none := by
  -- There is a slot exactly if the name is listed, that is, if the member is of the kind.
  have there := (fit.listed name).trans listed
  cases found : slots.get? name with
  | none => simp_all
  | some slot =>
    have same : kind = slotted := there.mp (by rw [found]; rfl)
    simp [fit.fits found known unspelled, same]

/-- The slots of members have targets of the members' kinds. -/
theorem keeps_memberSlots (natural : String → Option (Symbol β)) (names : List String) :
    Keeps (fun memo => Reflection.Sound { reflection with elements := memo })
      (memberSlots reflection.classes id natural names) fun slots _ =>
        SlotsFit slots reflection.classes id names := by
  refine (keeps_slots (fun name slot => slot.target.Fits reflection.classes (ofMember id name))
    names fun name => Reflection.keeps_kind _).imp ?_
  rintro slots _ ⟨pairs, rfl, listed, fits⟩
  -- The dictionary has the names that were resolved, each with a slot that was made for it.
  refine ⟨fun name => ?_, fun name slot found => ?_⟩
  · rw [← listed, ← Dictionary.mem_keys_ofList, Dictionary.mem_keys, Option.isSome_iff_exists]
  · exact fits _ (Dictionary.mem_of_get?_ofList found)

/-- A class that is woven has a slot for each member that it lists, with a target of its kind. -/
theorem keeps_shape : Keeps (fun memo => Reflection.Sound { reflection with elements := memo })
    (shape reflection.classes id) fun woven _ =>
      SlotsFit woven.methods reflection.classes id (reflection.classes.memberNames id).methods ∧
      SlotsFit woven.properties reflection.classes id
        (reflection.classes.memberNames id).properties := by
  -- Each member is resolved on its own, the methods before the properties.
  unfold shape
  refine keeps_bind (keeps_ofExcept _) fun descriptor _ _ => ?_
  refine keeps_bind (Reflection.keeps_kind _) fun target _ _ => ?_
  refine keeps_bind (keeps_memberSlots _ _) fun methods _ own => ?_
  exact keeps_bind (keeps_memberSlots _ _) fun properties _ read => keeps_pure fun _ => ⟨own, read⟩

end Weaver

namespace WovenClass

/-- A woven class offers a member as one of a kind: it has slots for uses of that kind of member,
with targets of the kind, and none for uses of the other kind. -/
structure Offers (woven : WovenClass β) (name : String) (kind : ElementKind) : Prop where
  methods : (woven.methods.get? name).map (fun slot => slot.target.kind) =
    if kind = .method then some .method else none
  properties : (woven.properties.get? name).map (fun slot => slot.target.kind) =
    if kind = .property then some .property else none

end WovenClass

namespace Reflection

/-- A member is taken for what it is: resolving gives a target of its kind, only a method has
parameters, and the lists of names and the slots of the woven class have it as what it is. -/
structure Follows (reflection : Reflection β) (id : ClassId) (name : String) (kind : ElementKind) :
    Prop where
  member : ∃ target, (reflection.resolve (.ofMember id name)).1 = .ok target ∧ target.kind = kind
  parameter : ∀ index, (∃ target, (reflection.resolve (.ofParameter id name index)).1 =
    .ok target) ↔ kind = .method
  methods : name ∈ (reflection.classes.memberNames id).methods ↔ kind = .method
  properties : name ∈ (reflection.classes.memberNames id).properties ↔ kind = .property
  slots : ∃ woven memo, (Weaver.shape reflection.classes id).run.run reflection.elements =
    (.ok woven, memo) ∧ woven.Offers name kind

/-- An element of a live class is resolved exactly if the class has it. -/
theorem Sound.resolve_ok_iff (sound : reflection.Sound) {descriptor : ClassDescriptor β}
    (live : reflection.classes.get? element.owner = some descriptor) :
    (∃ target, (reflection.resolve element).1 = .ok target) ↔
      ∃ kind, element.KnownAs reflection.classes kind := by
  constructor
  · rintro ⟨target, resolved⟩
    obtain ⟨_, ⟨_, kind, _, known, _⟩, _⟩ := sound.answers resolved
    -- Resolving leaves the classes as they are.
    exact ⟨kind, known⟩
  · rintro ⟨kind, known⟩
    obtain ⟨path, climbs⟩ := sound.classes.tended.rooted live
    obtain ⟨target, after, ran⟩ := succeeds_resolve element climbs
      (fun _ => kindOn_eq_ok.mpr known) reflection.elements
    exact ⟨target, by simp only [Reflection.resolve, ran]⟩

/-- Resolving a member gives a target of what it is known as, unless the member clashes. -/
theorem Sound.exists_resolve (sound : reflection.Sound) {descriptor : ClassDescriptor β}
    (live : reflection.classes.get? element.owner = some descriptor)
    (known : element.KnownAs reflection.classes kind)
    (unspelled : element.Unspelled reflection.classes) :
    ∃ target, (reflection.resolve element).1 = .ok target ∧ target.kind = kind := by
  -- An element that is known is resolved, to a target of its kind.
  obtain ⟨target, resolved⟩ := (sound.resolve_ok_iff live).mpr ⟨kind, known⟩
  exact ⟨target, resolved, (sound.resolve element).kind_eq (sound.answers resolved) known unspelled⟩

/-- A parameter of a live class is resolved exactly if the class has a method of the name. -/
theorem Sound.resolve_parameter_ok_iff (sound : reflection.Sound) {descriptor : ClassDescriptor β}
    (live : reflection.classes.get? id = some descriptor) (index : Nat) :
    (∃ target, (reflection.resolve (.ofParameter id name index)).1 = .ok target) ↔
      (reflection.classes.findMethod? id name).isSome := by
  -- A parameter is known as nothing but a parameter of a method.
  rw [sound.resolve_ok_iff live]
  refine ⟨fun ⟨kind, known⟩ => ?_, fun has => ⟨.parameter, .parameter has⟩⟩
  cases known with
  | parameter has => exact has

/-- A member of a live class is taken for what its nearest declaration says exactly if this is no
property below a method of its name. -/
theorem Maintained.follows_iff (maintained : Maintained reflection)
    {descriptor : ClassDescriptor β} (live : reflection.classes.get? id = some descriptor)
    (declared : reflection.classes.declaredKind? id name = some kind)
    (unspelled : (ofMember id name).Unspelled reflection.classes) :
    reflection.Follows id name kind ↔
      ¬ (kind = .property ∧ (reflection.classes.findMethod? id name).isSome) := by
  have sound := maintained.sound
  constructor
  · rintro follows ⟨rfl, has⟩
    -- A parameter of the name would be resolved.
    have resolved := (sound.resolve_parameter_ok_iff live 0).mpr has
    cases (follows.parameter 0).mp resolved
  · intro apart
    have known := knownAs_of_declaredKind? declared apart
    have methods : name ∈ (reflection.classes.memberNames id).methods ↔ kind = .method := by
      rw [ClassTable.mem_memberNames.1, declared, Option.some.injEq]
    have properties : name ∈ (reflection.classes.memberNames id).properties ↔
        kind = .property := by
      rw [ClassTable.mem_memberNames.2, declared, Option.some.injEq]
    -- What the member is known as decides all of it, and weaving goes by the lists of names.
    refine ⟨sound.exists_resolve live known unspelled, fun index =>
      (sound.resolve_parameter_ok_iff live index).trans known.isSome_findMethod?_iff,
      methods, properties, ?_⟩
    obtain ⟨path, climbs⟩ := sound.classes.tended.rooted live
    obtain ⟨woven, memo, ran⟩ := Weaver.succeeds_shape climbs reflection.elements
    obtain ⟨called, read⟩ := (Weaver.keeps_shape sound ran).2 woven rfl
    exact ⟨woven, memo, ran, called.map_kind known unspelled methods,
      read.map_kind known unspelled properties⟩

/-- A method that is declared below a property of its name is taken for a method. -/
theorem follows_iff_method_below_property :
    let base := { ClassTable.named "Base" with
      properties := Dictionary.ofList [("run", .ofField "run")] }
    let child := { ClassTable.named "Child" with
      parent := some ⟨0⟩, methods := Dictionary.ofList [("run", none)] }
    let reflection := ((empty.registerClass base).2.registerClass child).2
    Maintained reflection ∧ reflection.classes.declaredKind? ⟨1⟩ "run" = some .method ∧
      (ofMember ⟨1⟩ "run").Unspelled reflection.classes ∧
      reflection.Follows ⟨1⟩ "run" .method := by
  -- The child declares a method, which is what is looked for first.
  intro base child reflection
  have maintained : Maintained reflection :=
    (Maintained.empty.registerClass base).registerClass child
  have declared : reflection.classes.declaredKind? ⟨1⟩ "run" = some .method := by decide +kernel
  have unspelled : (ofMember ⟨1⟩ "run").Unspelled reflection.classes :=
    unspelled_of_notMem (by decide)
  refine ⟨maintained, declared, unspelled, ?_⟩
  exact (maintained.follows_iff rfl declared unspelled).mpr (by decide)

/-- A property that is declared below a method of its name is taken for a method when it is
resolved, and for a property everywhere else. -/
theorem property_below_method_resolved :
    let base := { ClassTable.named "Base" with methods := Dictionary.ofList [("run", none)] }
    let child := { ClassTable.named "Child" with
      parent := some ⟨0⟩, properties := Dictionary.ofList [("run", .ofField "run")] }
    let reflection := ((empty.registerClass base).2.registerClass child).2
    Maintained reflection ∧ reflection.classes.declaredKind? ⟨1⟩ "run" = some .property ∧
      reflection.classes.memberNames ⟨1⟩ = ⟨[], ["run"]⟩ ∧
      (reflection.resolve (.ofMember ⟨1⟩ "run")).1.map Target.kind = .ok .method ∧
      ¬ reflection.Follows ⟨1⟩ "run" .property := by
  -- The child declares a property, but the method of its parent is found first.
  intro base child reflection
  have resolved : (reflection.resolve (.ofMember ⟨1⟩ "run")).1.map Target.kind = .ok .method := by
    decide +kernel
  refine ⟨(Maintained.empty.registerClass base).registerClass child, by decide +kernel,
    by decide +kernel, resolved, fun follows => ?_⟩
  obtain ⟨target, same, property⟩ := follows.member
  rw [same, Except.map, property] at resolved
  cases resolved

end Reflection

end AspectWeaving
