import AspectWeaving.Proofs.Annotations.Spelling
import AspectWeaving.Proofs.Text.Words

/-! The texts that are references: a reference that can be written down, with any blanks around it;
and what is written down reads back exactly if it can be read at all. -/

namespace AspectWeaving.AnnotationRef

open Text

variable {reference : AnnotationRef} {text : List Char}

/-- A text is read as a reference if it is one of the ways to write it, with blanks around. -/
theorem ofChars?_eq_some_iff_surrounded :
    ofChars? text = some reference ↔ reference.Readable ∧
      ∃ front written behind, text = front ++ (written ++ behind) ∧ Blank front ∧ Blank behind ∧
        reference.Spelled written := by
  rw [ofChars?_eq_some_iff_trim]
  refine and_congr_right fun readable => ⟨fun spelled => ?_, ?_⟩
  · obtain ⟨front, behind, parts, before, after⟩ := exists_trim text
    exact ⟨front, trim text, behind, parts, before, after, spelled⟩
  · rintro ⟨front, written, behind, rfl, before, after, spelled⟩
    -- However a reference is written, none of its characters is trimmed off.
    rwa [trim_append before after (spelled.clean readable)]

/-- Parsing gives a reference exactly if its characters are read as it. -/
theorem parse_eq_ok_iff {text : String} :
    parse text = .ok reference ↔ ofChars? text.toList = some reference := by
  -- An error is given exactly where the characters cannot be read.
  unfold parse
  cases ofChars? text.toList <;> simp

/-- The texts that parse as a reference are the ways to write one that has a name and only
characters of names, with blanks around; and a reference is what its own text parses as exactly if
it is such a one. -/
theorem parse_exact :
    (∀ (text : String) (reference : AnnotationRef), parse text = .ok reference ↔
      reference.Readable ∧ ∃ front written behind, text.toList = front ++ (written ++ behind) ∧
        Blank front ∧ Blank behind ∧ reference.Spelled written) ∧
      ∀ reference : AnnotationRef, parse reference.text = .ok reference ↔ reference.Readable :=
  -- Reading takes off blanks, and what is printed has none around it.
  ⟨fun _ _ => parse_eq_ok_iff.trans ofChars?_eq_some_iff_surrounded,
    fun _ => ⟨readable_of_parse, Readable.parse_text⟩⟩

/-- A name with a colon is written as the text of a group and another name. -/
example : parse (AnnotationRef.mk "" "demo:Log").text = .ok ⟨"demo", "Log"⟩ := by decide +kernel

end AspectWeaving.AnnotationRef
