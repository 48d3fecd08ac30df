import AspectWeaving.Annotations.Reference
import AspectWeaving.Proofs.Text.Pieces
import Mathlib.Data.List.TakeWhile

/-! The written form of a reference that can be read: it reads back as the reference, and nothing
in it could be taken for a blank or for a bar between references. -/

namespace AspectWeaving

namespace Text

/-- No letter or number of any script is a blank. -/
theorem isAlphanumeric_of_isBlank {c : Char} (blank : isBlank c = true) :
    isAlphanumeric c = false := by
  -- The ranges of blanks and those of letters and numbers lie apart.
  let blanks : List (Nat × Nat) :=
    [(0x9, 0xD), (0x20, 0x20), (0x85, 0x85), (0xA0, 0xA0), (0x1680, 0x1680), (0x2000, 0x200A),
      (0x2028, 0x2029), (0x202F, 0x202F), (0x205F, 0x205F), (0x3000, 0x3000)]
  have apart : ∀ gap ∈ blanks, ∀ range ∈ alphanumericRanges,
      range.2 < gap.1 ∨ gap.2 < range.1 := by decide +kernel
  have within : ∃ gap ∈ blanks, gap.1 ≤ c.toNat ∧ c.toNat ≤ gap.2 := by
    simp [isBlank, blanks] at blank ⊢
    omega
  obtain ⟨gap, listed, above, below⟩ := within
  unfold isAlphanumeric inRanges
  rw [List.any_eq_false]
  intro range member
  have sides := apart gap listed range member
  simp only [Bool.and_eq_true, decide_eq_true_eq, not_and]
  omega

end Text

namespace AnnotationRef

open Text

/-- A reference that can be written down and read again: it has a name, and only characters that
may stand in names. -/
structure Readable (reference : AnnotationRef) : Prop where
  named : reference.name.toList ≠ []
  name : ∀ c ∈ reference.name.toList, isNameChar c = true
  group : ∀ c ∈ reference.group.toList, isNameChar c = true

/-- Characters of names are neither blanks nor any of the signs around names. -/
theorem isNameChar_apart {c : Char} (allowed : isNameChar c = true) :
    isBlank c = false ∧ c ≠ '@' ∧ c ≠ ':' ∧ c ≠ '|' := by
  refine ⟨?_, ?_, ?_, ?_⟩
  · cases blank : isBlank c with
    | false => rfl
    | true =>
      have letterless := isAlphanumeric_of_isBlank blank
      -- Four signs are allowed besides the letters, and none of them is a blank.
      simp only [isNameChar, letterless, Bool.false_or, Bool.or_eq_true, beq_iff_eq] at allowed
      rcases allowed with ((same | same) | same) | same <;> subst same <;> simp [isBlank] at blank
  all_goals
    intro same
    subst same
    revert allowed
    decide +kernel

/-- What is read as a reference can be written down and read again. -/
theorem readable_of_ofChars? {text : List Char} {reference : AnnotationRef}
    (read : ofChars? text = some reference) : reference.Readable := by
  unfold ofChars? at read
  split at read
  · next body _ =>
    dsimp only at read
    split at read
    · contradiction
    · next good =>
      -- The three tests that have been passed are those on the name and on the group.
      obtain rfl := Option.some.inj read
      simp only [Bool.or_eq_true, Bool.not_eq_true', not_or, Bool.not_eq_true,
        Bool.not_eq_false, List.all_eq_true, List.isEmpty_eq_false_iff] at good
      obtain ⟨⟨named, name⟩, group⟩ := good
      exact ⟨by simpa using named, by simpa using name, by simpa using group⟩
  · contradiction

namespace Readable

variable {reference : AnnotationRef}

/-- A colon cuts a group from its name, which holds no colon itself. -/
theorem splitGroup_eq (readable : reference.Readable) :
    splitGroup (reference.group.toList ++ ':' :: reference.name.toList) =
      (reference.group.toList, reference.name.toList) := by
  -- The group has no colon, so that the first colon is the one behind it.
  have passed : ∀ c ∈ reference.group.toList, decide (c ≠ ':') = true := fun c member =>
    decide_eq_true (isNameChar_apart (readable.group c member)).2.2.1
  unfold splitGroup
  rw [List.dropWhile_append_of_pos passed, List.takeWhile_append_of_pos passed]
  simp

/-- A name without a colon has no group in front. -/
theorem splitGroup_name (readable : reference.Readable) :
    splitGroup reference.name.toList = ([], reference.name.toList) := by
  -- A name has no colon, and so all of it is passed over in search of one.
  have gone : reference.name.toList.dropWhile (fun c => decide (c ≠ ':')) = [] :=
    List.dropWhile_eq_nil_iff.mpr fun c member =>
      decide_eq_true (isNameChar_apart (readable.name c member)).2.2.1
  unfold splitGroup
  rw [gone]

/-- The characters of the written form. -/
theorem toList_text (reference : AnnotationRef) :
    reference.text.toList =
      '@' :: (if reference.group.isEmpty then reference.name.toList
        else reference.group.toList ++ ':' :: reference.name.toList) := by
  -- The sign stands in front, whether or not there is a group.
  unfold AnnotationRef.text
  split <;> simp

/-- The written form is one piece: without blanks, and without a bar. -/
theorem clean (readable : reference.Readable) :
    ∀ c ∈ reference.text.toList, isBlank c = false ∧ c ≠ '|' := by
  -- No sign of a group or a name is a blank or a bar; neither is the colon between them.
  intro c member
  have plain {d : Char} (allowed : isNameChar d = true) : isBlank d = false ∧ d ≠ '|' :=
    ⟨(isNameChar_apart allowed).1, (isNameChar_apart allowed).2.2.2⟩
  rw [toList_text] at member
  rcases List.mem_cons.mp member with sign | body
  · subst sign
    decide
  · split at body
    · exact plain (readable.name c body)
    · rcases List.mem_append.mp body with group | rest
      · exact plain (readable.group c group)
      · rcases List.mem_cons.mp rest with colon | name
        · subst colon
          decide
        · exact plain (readable.name c name)

/-- The written form reads back as the reference. -/
theorem ofChars?_text (readable : reference.Readable) :
    ofChars? reference.text.toList = some reference := by
  have trimmed := trim_of_clean fun c member => (readable.clean c member).1
  have named := readable.named
  have name : reference.name.toList.all isNameChar = true := List.all_eq_true.mpr readable.name
  have group : reference.group.toList.all isNameChar = true := List.all_eq_true.mpr readable.group
  unfold ofChars?
  rw [trimmed, toList_text]
  -- An empty group is not written, and a name alone is read with an empty group.
  by_cases bare : reference.group.isEmpty
  · have empty : reference.group = "" := by simpa using bare
    simp only [bare, if_true, readable.splitGroup_name, name]
    simp [named, ← empty]
  · simp only [bare, Bool.false_eq_true, if_false, readable.splitGroup_eq, name, group]
    simp [named]

/-- The written form parses as the reference. -/
theorem parse_text (readable : reference.Readable) : parse reference.text = .ok reference := by
  -- Parsing is reading the characters, and those of a text are read back.
  unfold parse
  rw [readable.ofChars?_text]

end Readable

/-- What parses as a reference can be written down and read again. -/
theorem readable_of_parse {text : String} {reference : AnnotationRef}
    (parsed : parse text = .ok reference) : reference.Readable := by
  -- What is parsed has been read off the characters.
  unfold parse at parsed
  split at parsed
  · next read =>
    rw [← Except.ok.inj parsed]
    exact readable_of_ofChars? read
  · contradiction

end AnnotationRef

end AspectWeaving
