import AspectWeaving.Proofs.Element.Resolution
import AspectWeaving.Proofs.Text.Separators

/-! References are put together from names as they are. The elements of one class are told apart by
them, except that the name of a method may spell the place of a parameter of another method. -/

namespace AspectWeaving

variable {β : Type} {classes : ClassTable β} {kind kind' : ElementKind}
  {owner owner' key key' : String} {index index' : Nat}

namespace Target

/-- The name of a method whose reference reads like that of a parameter of another method. -/
def placeName (key : String) (index : Nat) : String := key ++ "].a[" ++ toString index

/-- The name spells the method and the number of the parameter out. -/
theorem placeName_inj :
    placeName key index = placeName key' index' ↔ key = key' ∧ index = index' := by
  refine ⟨fun same => ?_, fun ⟨keys, places⟩ => by rw [keys, places]⟩
  -- The last bracket stands before the number.
  have parts (key : String) (index : Nat) : (placeName key index).toList =
      (key.toList ++ "].a".toList) ++ '[' :: (toString index).toList := by simp [placeName]
  have letters := congrArg String.toList same
  rw [parts, parts, Text.append_number_inj (by decide), List.append_cancel_right_eq] at letters
  exact ⟨String.toList_inj.mp letters.1, letters.2⟩

/-- The reference of a parameter is that of a method with such a name. -/
theorem referenceOf_parameter :
    referenceOf owner .parameter key index = referenceOf owner .method (placeName key index) 0 := by
  -- The name of a place has the brackets of the parameter in it.
  simp [referenceOf, placeName, String.append_assoc]

/-- But for parameters, a reference tells of what kind an element is, and which member. -/
theorem referenceOf_inj (plain : kind ≠ .parameter) (plain' : kind' ≠ .parameter) :
    referenceOf owner kind key index = referenceOf owner kind' key' index' ↔
      kind = kind' ∧ (kind = .classType ∨ key = key') := by
  -- The kinds have different signs behind the owner.
  cases kind <;> cases kind' <;> simp_all [referenceOf, ← String.toList_inj]

end Target

namespace Element

open Target

/-- A method of a class whose name spells the place of a parameter of another method of it. -/
inductive Spells (classes : ClassTable β) : Element → Element → Prop where
  | place {id : ClassId} {key : String} {index : Nat}
      (method : (classes.findMethod? id (placeName key index)).isSome)
      (other : (classes.findMethod? id key).isSome) :
      Spells classes (ofMember id (placeName key index)) (ofParameter id key index)

/-- Two elements that share a reference: such a method and such a parameter. -/
def Clash (classes : ClassTable β) (a b : Element) : Prop :=
  Spells classes a b ∨ Spells classes b a

variable {a b : Element}

/-- Elements that clash are on one class. -/
theorem Clash.owner_eq (clash : Clash classes a b) : a.owner = b.owner := by
  -- Only elements of one owner are spelled alike.
  rcases clash with spells | spells <;> cases spells <;> rfl

/-- What an element is known as is one thing only. -/
theorem KnownAs.kind_eq (known : a.KnownAs classes kind) (known' : a.KnownAs classes kind') :
    kind = kind' := by
  -- The kind is computed, and it depends on a descriptor only for the text of faults.
  have any : ClassDescriptor β := ⟨⟨"", none, none, ∅, ∅⟩, ""⟩
  have same : Except.ok kind = .ok kind' :=
    (kindOn_eq_ok.mpr known : a.kindOn classes any = _).symm.trans (kindOn_eq_ok.mpr known')
  exact Except.ok.inj same

/-- Elements of one class have one reference only if they are one element or clash. -/
theorem KnownAs.reference_eq_iff (known : a.KnownAs classes kind) (known' : b.KnownAs classes kind')
    (together : a.owner = b.owner) :
    referenceOf owner kind (a.member.getD "") (a.index.getD 0) =
      referenceOf owner kind' (b.member.getD "") (b.index.getD 0) ↔ a = b ∨ Clash classes a b := by
  refine ⟨fun same => ?_, fun shared => ?_⟩
  · -- Equal references are those of elements of one kind, but for the place of a parameter.
    cases known with
    | whole =>
      cases known' with
      | whole => exact .inl (congrArg ofClass together)
      | method | property => simp [ofClass, ofMember, referenceOf_inj] at same
      | parameter => simp [ofClass, ofParameter, referenceOf_parameter, referenceOf_inj] at same
    | @method id key has =>
      cases known' with
      | whole | property => simp [ofClass, ofMember, referenceOf_inj] at same
      | @method other key' =>
        obtain rfl : id = other := together
        have names : key = key' := by simpa [ofMember, referenceOf_inj] using same
        exact .inl (congrArg (ofMember id) names)
      | @parameter other key' index' has' =>
        obtain rfl : id = other := together
        obtain rfl : key = placeName key' index' := by
          simpa [ofMember, ofParameter, referenceOf_parameter, referenceOf_inj] using same
        exact .inr (.inl (.place has has'))
    | @property id key =>
      cases known' with
      | whole | method => simp [ofClass, ofMember, referenceOf_inj] at same
      | @property other key' =>
        obtain rfl : id = other := together
        have names : key = key' := by simpa [ofMember, referenceOf_inj] using same
        exact .inl (congrArg (ofMember id) names)
      | parameter => simp [ofMember, ofParameter, referenceOf_parameter, referenceOf_inj] at same
    | @parameter id key index has =>
      cases known' with
      | whole | property =>
        simp [ofClass, ofMember, ofParameter, referenceOf_parameter, referenceOf_inj] at same
      | @method other key' has' =>
        obtain rfl : id = other := together
        obtain rfl : placeName key index = key' := by
          simpa [ofMember, ofParameter, referenceOf_parameter, referenceOf_inj] using same
        exact .inr (.inr (.place has' has))
      | @parameter other key' index' =>
        obtain rfl : id = other := together
        have places : key = key' ∧ index = index' := by
          simpa [ofParameter, referenceOf_parameter, referenceOf_inj, placeName_inj] using same
        exact .inl (by rw [places.1, places.2])
  · rcases shared with rfl | clash | clash
    · rw [known.kind_eq known']
    · cases clash with
      | place method other =>
        rw [known.kind_eq (.method method), known'.kind_eq (.parameter other)]
        exact referenceOf_parameter.symm
    · cases clash with
      | place method other =>
        rw [known.kind_eq (.parameter other), known'.kind_eq (.method method)]
        exact referenceOf_parameter

/-- The same holds of the references that elements of one class are known by at present. -/
theorem KnownBy.reference_eq_iff {reference reference' : String}
    (known : a.KnownBy classes reference) (known' : b.KnownBy classes reference')
    (together : a.owner = b.owner) : reference = reference' ↔ a = b ∨ Clash classes a b := by
  obtain ⟨descriptor, kind, live, known, rfl⟩ := known
  obtain ⟨held, kind', live', known', rfl⟩ := known'
  -- Both are on the class that is live now.
  rw [← together, live, Option.some.injEq] at live'
  subst live'
  exact known.reference_eq_iff known' together

end Element

end AspectWeaving
