import AspectWeaving.Proofs.Annotations.Reference

/-! The ways in which a reference can be written: they are what is read as this reference. -/

namespace AspectWeaving.AnnotationRef

open Text

/-- The ways to write a reference: with its group, or by the name alone where the group is
empty. -/
inductive Spelled (reference : AnnotationRef) : List Char → Prop
  | full : Spelled reference ('@' :: (reference.group.toList ++ ':' :: reference.name.toList))
  | short (ungrouped : reference.group = "") : Spelled reference ('@' :: reference.name.toList)

variable {reference : AnnotationRef} {text : List Char}

instance (reference : AnnotationRef) : Decidable reference.Readable :=
  decidable_of_iff
    (reference.name.toList ≠ [] ∧ reference.name.toList.all isNameChar = true ∧
      reference.group.toList.all isNameChar = true)
    ⟨fun ⟨named, name, group⟩ => ⟨named, List.all_eq_true.mp name, List.all_eq_true.mp group⟩,
      fun ⟨named, name, group⟩ => ⟨named, List.all_eq_true.mpr name, List.all_eq_true.mpr group⟩⟩

/-- However a reference is written, a sign opens it that does not occur again, and neither a blank
nor a bar occurs at all. -/
theorem Spelled.exists_cons (spelled : reference.Spelled text) (readable : reference.Readable) :
    ∃ body, text = '@' :: body ∧ ∀ c ∈ body, isBlank c = false ∧ c ≠ '@' ∧ c ≠ '|' := by
  -- Behind the sign there are a group, a colon and a name, or a name alone.
  have plain {c : Char} (allowed : isNameChar c = true) :
      isBlank c = false ∧ c ≠ '@' ∧ c ≠ '|' :=
    ⟨(isNameChar_apart allowed).1, (isNameChar_apart allowed).2.1,
      (isNameChar_apart allowed).2.2.2⟩
  cases spelled with
  | full =>
    refine ⟨_, rfl, fun c member => ?_⟩
    rcases List.mem_append.mp member with group | rest
    · exact plain (readable.group c group)
    · rcases List.mem_cons.mp rest with rfl | name
      · decide
      · exact plain (readable.name c name)
  | short _ => exact ⟨_, rfl, fun c member => plain (readable.name c member)⟩

/-- However a reference is written, there is no blank in it. -/
theorem Spelled.clean (spelled : reference.Spelled text) (readable : reference.Readable) :
    ∀ c ∈ text, isBlank c = false := by
  -- The sign is no blank, and neither is anything behind it.
  obtain ⟨body, rfl, plain⟩ := spelled.exists_cons readable
  exact List.forall_mem_cons.mpr ⟨by decide, fun c member => (plain c member).1⟩

/-- A text without a colon is a name; any other is cut at a colon. -/
theorem splitGroup_cases (body : List Char) :
    splitGroup body = ([], body) ∨
      ∃ group name, body = group ++ ':' :: name ∧ splitGroup body = (group, name) := by
  -- The body is passed over up to its first colon, if it has one.
  unfold splitGroup
  cases left : body.dropWhile fun c => decide (c ≠ ':') with
  | nil => exact .inl rfl
  | cons c name =>
    have stopped := List.head?_dropWhile_not (fun c => decide (c ≠ ':')) body
    rw [left] at stopped
    obtain rfl : c = ':' := by simpa using stopped
    exact .inr ⟨_, name, by rw [← left, List.takeWhile_append_dropWhile], rfl⟩

/-- What is read as a reference is, but for the blanks around it, what the reference can be written
as. -/
theorem ofChars?_eq_some_iff_trim :
    ofChars? text = some reference ↔ reference.Readable ∧ reference.Spelled (trim text) := by
  constructor
  · intro read
    refine ⟨readable_of_ofChars? read, ?_⟩
    unfold ofChars? at read
    split at read
    · next body trimmed =>
      rw [trimmed]
      -- The parts that the body is cut into are those of the reference.
      dsimp only at read
      split at read
      · contradiction
      · obtain rfl := Option.some.inj read
        rcases splitGroup_cases body with cut | ⟨group, name, rfl, cut⟩
        · have alone : Spelled ⟨"", String.ofList body⟩ _ := .short rfl
          simpa [cut] using alone
        · have grouped : Spelled ⟨String.ofList group, String.ofList name⟩ _ := .full
          simpa [cut] using grouped
    · contradiction
  · intro ⟨readable, spelled⟩
    have name : reference.name.toList.all isNameChar = true := List.all_eq_true.mpr readable.name
    have group : reference.group.toList.all isNameChar = true :=
      List.all_eq_true.mpr readable.group
    unfold ofChars?
    generalize trim text = written at spelled ⊢
    cases spelled with
    | full =>
      simp only [readable.splitGroup_eq, name, group]
      simp [readable.named]
    | short ungrouped =>
      simp only [readable.splitGroup_name, name]
      simp [readable.named, ← ungrouped]

/-- What is read as a reference, of the texts without blanks, is what the reference can be written
as. -/
theorem ofChars?_eq_some_iff (clean : ∀ c ∈ text, isBlank c = false) :
    ofChars? text = some reference ↔ reference.Readable ∧ reference.Spelled text := by
  -- There are no blanks that could be taken off.
  rw [ofChars?_eq_some_iff_trim, trim_of_clean clean]

end AspectWeaving.AnnotationRef
