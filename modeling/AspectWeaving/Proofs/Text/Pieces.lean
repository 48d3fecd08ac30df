import AspectWeaving.Text.Blank
import Mathlib.Data.List.Basic

/-! Cutting a text at its separators: no piece holds one, and pieces that are joined by a separator
come apart again. -/

namespace AspectWeaving.Text

variable {isSeparator : Char → Bool} {separator : Char} {text piece : List Char}

/-- Cutting a text into pieces is splitting the list of its characters. -/
theorem pieces_eq_splitOnP (text : List Char) :
    pieces isSeparator text = text.splitOnP isSeparator := by
  induction text with
  | nil => rfl
  | cons c rest ih =>
    rw [pieces, List.splitOnP_cons_eq_if_modifyHead, ih]
    split
    · rfl
    · -- There is a first piece for the character to be put in front of.
      obtain ⟨head, more, cut⟩ :=
        List.exists_cons_of_ne_nil (List.splitOnP_ne_nil isSeparator rest)
      rw [cut, List.modifyHead_cons]

/-- The pieces of a text hold characters of the text that are no separators. -/
theorem of_mem_pieces (member : piece ∈ pieces isSeparator text) :
    ∀ c ∈ piece, c ∈ text ∧ isSeparator c = false := by
  -- The induction is on the text; its first character starts a piece or is in the first one.
  induction text generalizing piece with
  | nil =>
    intro c held
    simp only [pieces, List.mem_singleton] at member
    subst member
    simp at held
  | cons first rest ih =>
    intro c held
    have passed {d : Char} (found : d ∈ rest ∧ isSeparator d = false) :
        d ∈ first :: rest ∧ isSeparator d = false :=
      ⟨List.mem_cons_of_mem first found.1, found.2⟩
    unfold pieces at member
    split at member
    · rcases List.mem_cons.mp member with empty | later
      · subst empty
        simp at held
      · exact passed (ih later c held)
    · next plain =>
      split at member
      · next none =>
        rw [pieces_eq_splitOnP] at none
        exact absurd none (List.splitOnP_ne_nil isSeparator rest)
      · next head more cut =>
        rw [cut] at ih
        rcases List.mem_cons.mp member with grown | later
        · -- The first piece has grown by the first character.
          subst grown
          rcases List.mem_cons.mp held with same | deeper
          · subst same
            exact ⟨List.mem_cons_self, by simpa using plain⟩
          · exact passed (ih List.mem_cons_self c deeper)
        · exact passed (ih (List.mem_cons_of_mem head later) c held)

/-- A part of some text: it is not empty and holds no separator. -/
structure IsPart (isSeparator : Char → Bool) (piece : List Char) : Prop where
  nonempty : piece ≠ []
  clean : ∀ c ∈ piece, isSeparator c = false

/-- What a text is cut into are parts, made of its characters. -/
theorem isPart_of_mem_parts (member : piece ∈ parts isSeparator text) :
    IsPart isSeparator piece ∧ ∀ c ∈ piece, c ∈ text := by
  -- The parts are the pieces that are not empty.
  obtain ⟨cut, kept⟩ := List.mem_filter.mp member
  have held := of_mem_pieces cut
  exact ⟨⟨by simpa using kept, fun c inside => (held c inside).2⟩,
    fun c inside => (held c inside).1⟩

/-- A part is not cut any further. -/
theorem IsPart.parts_eq (part : IsPart isSeparator piece) : parts isSeparator piece = [piece] := by
  -- A part has no separator that it could be cut at.
  simp [parts, pieces_eq_splitOnP, List.splitOnP_eq_singleton part.clean, part.nonempty]

/-- A separator cuts a text in two, whose parts follow each other. -/
theorem parts_append (ends : isSeparator separator = true) (front back : List Char) :
    parts isSeparator (front ++ separator :: back) =
      parts isSeparator front ++ parts isSeparator back := by
  -- The text is cut at the separator.
  simp only [parts, pieces_eq_splitOnP, List.splitOnP_append_cons front back ends,
    List.filter_append]

/-- Parts that are joined by a separator come apart again. -/
theorem parts_intercalate (ends : isSeparator separator = true) {items : List (List Char)}
    (apart : ∀ item ∈ items, IsPart isSeparator item) :
    parts isSeparator ([separator].intercalate items) = items := by
  induction items with
  | nil => rfl
  | cons item rest ih =>
    have first := (apart item List.mem_cons_self).parts_eq
    have others := ih fun other member => apart other (List.mem_cons_of_mem item member)
    -- A single part is joined to nothing; any other is followed by the separator.
    cases rest with
    | nil => simpa using first
    | cons next more =>
      rw [List.intercalate_cons_cons, List.append_assoc, List.singleton_append, parts_append ends,
        first, others, List.singleton_append]

/-- What stands in joined items stands in one of them or in the separator. -/
theorem mem_intercalate {separator : List Char} {items : List (List Char)} {c : Char}
    (held : c ∈ separator.intercalate items) : c ∈ separator ∨ ∃ item ∈ items, c ∈ item := by
  -- The induction is on the items, which stand on both sides of the separator.
  induction items with
  | nil => simp at held
  | cons item rest ih =>
    cases rest with
    | nil => exact .inr ⟨item, List.mem_cons_self, by simpa using held⟩
    | cons next more =>
      rw [List.intercalate_cons_cons, List.append_assoc] at held
      rcases List.mem_append.mp held with first | later
      · exact .inr ⟨item, List.mem_cons_self, first⟩
      · rcases List.mem_append.mp later with between | others
        · exact .inl between
        · rcases ih others with between | ⟨other, member, inside⟩
          · exact .inl between
          · exact .inr ⟨other, List.mem_cons_of_mem item member, inside⟩

/-- A text without blanks has none in front to be dropped. -/
theorem dropWhile_of_clean (clean : ∀ c ∈ text, isBlank c = false) :
    text.dropWhile isBlank = text := by
  -- The first character is no blank.
  cases text with
  | nil => rfl
  | cons c rest => simp [clean c List.mem_cons_self]

/-- There is nothing to trim off a text without blanks. -/
theorem trim_of_clean (clean : ∀ c ∈ text, isBlank c = false) : trim text = text := by
  -- Neither end of the text is a blank.
  have reversed : text.reverse.dropWhile isBlank = text.reverse :=
    dropWhile_of_clean fun c member => clean c (List.mem_reverse.mp member)
  rw [trim, dropWhile_of_clean clean, reversed, List.reverse_reverse]

end AspectWeaving.Text
