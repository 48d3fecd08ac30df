import AspectWeaving.Proofs.Text.Pieces
import Mathlib.Data.List.TakeWhile

/-! How words stand in a text: with blanks between any two of them, and any at both ends. -/

namespace AspectWeaving.Text

/-- A text of blanks alone. -/
def Blank (gap : List Char) : Prop := ∀ c ∈ gap, isBlank c = true

instance (gap : List Char) : Decidable (Blank gap) :=
  decidable_of_iff (gap.all isBlank = true) List.all_eq_true

/-- A text without its blanks. -/
def unspaced (text : List Char) : List Char := text.filter fun c => !isBlank c

/-- How words stand in a text: a blank may stand anywhere but inside of a word, and there is one
behind each word that the text does not end with. -/
inductive Spaced : List (List Char) → List Char → Prop
  | nil : Spaced [] []
  | blank {items text c} (blank : isBlank c = true) (rest : Spaced items text) :
      Spaced items (c :: text)
  | word {word items text} (part : IsPart isBlank word) (ended : ∀ c ∈ text.head?, isBlank c = true)
      (rest : Spaced items text) : Spaced (word :: items) (word ++ text)

variable {text front gap behind word : List Char} {items more : List (List Char)} {c : Char}

@[simp] theorem unspaced_append (front behind : List Char) :
    unspaced (front ++ behind) = unspaced front ++ unspaced behind :=
  List.filter_append front behind

/-- Nothing is left without the blanks of a text that has nothing else. -/
theorem unspaced_eq_nil_iff : unspaced gap = [] ↔ Blank gap := by
  simp [unspaced, Blank, List.filter_eq_nil_iff]

/-- A text without blanks is left as it is. -/
theorem unspaced_of_clean (clean : ∀ c ∈ text, isBlank c = false) : unspaced text = text :=
  List.filter_eq_self.mpr fun c member => by simp [clean c member]

/-- What is left holds no blank, and nothing that the text does not hold. -/
theorem of_mem_unspaced (member : c ∈ unspaced text) : c ∈ text ∧ isBlank c = false := by
  simpa [unspaced] using member

@[simp] theorem words_nil : words [] = [] := rfl

/-- A blank in front of a text changes none of its words. -/
theorem words_cons_of_blank (blank : isBlank c = true) (text : List Char) :
    words (c :: text) = words text :=
  parts_append blank [] text

/-- Blanks in front of a text change none of its words. -/
theorem words_append_of_blank (blank : Blank gap) (text : List Char) :
    words (gap ++ text) = words text := by
  -- The induction is on the blanks.
  induction gap with
  | nil => rfl
  | cons c rest ih =>
    rw [List.cons_append, words_cons_of_blank (blank c List.mem_cons_self),
      ih fun d member => blank d (List.mem_cons_of_mem c member)]

/-- There is no word among blanks. -/
theorem words_of_blank (blank : Blank gap) : words gap = [] := by
  simpa using words_append_of_blank blank []

/-- A word that a blank or the end of the text follows is the first word of the text. -/
theorem words_append_of_isPart (part : IsPart isBlank word)
    (ended : ∀ c ∈ text.head?, isBlank c = true) : words (word ++ text) = word :: words text := by
  -- The word ends with the text, or at a blank.
  cases text with
  | nil => rw [List.append_nil, words, part.parts_eq, words_nil]
  | cons c rest =>
    have blank := ended c rfl
    have cut := parts_append blank word rest
    rw [part.parts_eq] at cut
    rw [words_cons_of_blank blank]
    exact cut

/-- Words that stand in a text are those that it is cut into. -/
theorem Spaced.words_eq (spaced : Spaced items text) : words text = items := by
  -- The induction is on how the text is spaced.
  induction spaced with
  | nil => rfl
  | blank blank _ ih => rw [words_cons_of_blank blank, ih]
  | word part ended _ ih => rw [words_append_of_isPart part ended, ih]

/-- The words that a text is cut into stand in it. -/
theorem spaced_words (text : List Char) : Spaced (words text) text := by
  -- The induction is on the length, as a step takes either one blank or a whole word.
  induction length : text.length using Nat.strong_induction_on generalizing text with
  | _ size ih =>
    cases text with
    | nil => exact .nil
    | cons c rest =>
      simp only [List.length_cons] at length
      cases first : isBlank c with
      | true =>
        rw [words_cons_of_blank first]
        exact .blank first (ih rest.length (by omega) rest rfl)
      | false =>
        let plain : Char → Bool := fun d => !isBlank d
        have part : IsPart isBlank (c :: rest.takeWhile plain) := by
          refine ⟨by simp, fun d member => ?_⟩
          rcases List.mem_cons.mp member with rfl | later
          · exact first
          · simpa [plain] using List.mem_takeWhile_imp later
        have ended : ∀ d ∈ (rest.dropWhile plain).head?, isBlank d = true := by
          intro d headed
          have stopped := List.head?_dropWhile_not plain rest
          rw [Option.mem_def.mp headed] at stopped
          simpa [plain] using stopped
        have shorter : (rest.dropWhile plain).length ≤ rest.length :=
          (List.dropWhile_suffix plain).length_le
        have whole : c :: rest = (c :: rest.takeWhile plain) ++ rest.dropWhile plain := by
          rw [List.cons_append, List.takeWhile_append_dropWhile]
        rw [whole, words_append_of_isPart part ended]
        exact .word part ended (ih _ (by omega) _ rfl)

/-- The words of a text are the ones that stand in it with blanks between them. -/
theorem words_eq_iff : words text = items ↔ Spaced items text :=
  ⟨fun cut => cut ▸ spaced_words text, Spaced.words_eq⟩

/-- Without its blanks a text is its words one after the other. -/
theorem Spaced.flatten_eq (spaced : Spaced items text) : items.flatten = unspaced text := by
  -- The induction is on how the text is spaced; words have no blanks in them.
  induction spaced with
  | nil => rfl
  | blank blank _ ih => rw [ih, unspaced, unspaced, List.filter_cons_of_neg (by simp [blank])]
  | word part _ _ ih => rw [unspaced_append, unspaced_of_clean part.clean, List.flatten_cons, ih]

/-- Only blanks stand in a text without words. -/
theorem Spaced.isBlank_of_nil (spaced : Spaced [] text) : Blank text :=
  unspaced_eq_nil_iff.mp spaced.flatten_eq.symm

/-- The first word of a text, with the blanks in front of it and what follows it. -/
theorem Spaced.exists_of_cons (spaced : Spaced (word :: items) text) :
    ∃ gap rest, text = gap ++ word ++ rest ∧ Blank gap ∧ IsPart isBlank word ∧
      (∀ c ∈ rest.head?, isBlank c = true) ∧ Spaced items rest := by
  -- The induction is on the blanks in front of the first word.
  generalize listed : word :: items = all at spaced
  induction spaced with
  | nil => cases listed
  | @blank items text c blank _ ih =>
    obtain ⟨gap, rest, rfl, blanks, found⟩ := ih listed
    exact ⟨c :: gap, rest, rfl, List.forall_mem_cons.mpr ⟨blank, blanks⟩, found⟩
  | @word word items text part ended rest _ =>
    cases listed
    exact ⟨[], text, rfl, by simp [Blank], part, ended, rest⟩

/-- The words of two texts follow each other if there is a blank in between. -/
theorem words_append (apart : Blank gap) (between : gap = [] → Blank front)
    (behind : List Char) : words (front ++ gap ++ behind) = words front ++ words behind := by
  -- The gap is empty behind blanks only, so that no word is cut or joined.
  cases gap with
  | nil =>
    have blank := between rfl
    rw [List.append_nil, words_append_of_blank blank, words_of_blank blank, List.nil_append]
  | cons c rest =>
    have first := apart c List.mem_cons_self
    have others : Blank rest := fun d member => apart d (List.mem_cons_of_mem c member)
    rw [List.append_assoc, List.cons_append, words, parts_append first]
    exact congrArg (words front ++ ·) (words_append_of_blank others behind)

/-- A text can be cut in front of any of its words but the first; there is a blank to cut at. -/
theorem Spaced.exists_of_append (spaced : Spaced (items ++ word :: more) text) :
    ∃ front gap behind, text = front ++ gap ++ behind ∧ Spaced items front ∧ Blank gap ∧
      (gap = [] → items = []) ∧ Spaced (word :: more) behind := by
  induction items generalizing text with
  | nil => exact ⟨[], [], text, rfl, .nil, by simp [Blank], fun _ => rfl, spaced⟩
  | cons first items ih =>
    obtain ⟨before, rest, rfl, blanks, part, ended, others⟩ := spaced.exists_of_cons
    have led {front : List Char} (ended : ∀ c ∈ front.head?, isBlank c = true)
        (standing : Spaced items front) : Spaced (first :: items) (before ++ first ++ front) := by
      rw [← words_eq_iff, List.append_assoc, words_append_of_blank blanks,
        words_append_of_isPart part ended, standing.words_eq]
    cases items with
    | nil =>
      -- The blank behind the first word is the one to cut at.
      cases others with
      | @blank _ behind c blank others =>
        exact ⟨before ++ first, [c], behind, by simp, by simpa using led (by simp) .nil,
          by simpa [Blank] using blank, by simp, others⟩
      | @word _ _ text part _ _ =>
        obtain ⟨c, later, rfl⟩ := List.exists_cons_of_ne_nil part.nonempty
        have plain := part.clean c List.mem_cons_self
        rw [ended c rfl] at plain
        contradiction
    | cons next items =>
      obtain ⟨front, gap, behind, rfl, standing, blank, between, found⟩ := ih others
      refine ⟨before ++ first ++ front, gap, behind, by simp, led ?_ standing, blank,
        fun none => absurd (between none) (by simp), found⟩
      intro c headed
      refine ended c ?_
      cases front with
      | nil => cases headed
      | cons d front => exact headed

/-- Trimming takes blanks off both ends of a text. -/
theorem exists_trim (text : List Char) :
    ∃ front behind, text = front ++ (trim text ++ behind) ∧ Blank front ∧ Blank behind := by
  let rest := text.dropWhile isBlank
  have front : text = text.takeWhile isBlank ++ rest := List.takeWhile_append_dropWhile.symm
  -- What is taken off the end is what stands in front when the rest is read backwards.
  have behind : rest = trim text ++ (rest.reverse.takeWhile isBlank).reverse := by
    rw [trim, ← List.reverse_append, List.takeWhile_append_dropWhile, List.reverse_reverse]
  refine ⟨_, _, front.trans (congrArg _ behind), fun c member => List.mem_takeWhile_imp member,
    fun c member => List.mem_takeWhile_imp (List.mem_reverse.mp member)⟩

/-- Trimming takes all blanks off around a part that holds none. -/
theorem trim_append (before : Blank front) (after : Blank behind)
    (clean : ∀ c ∈ text, isBlank c = false) : trim (front ++ (text ++ behind)) = text := by
  rw [trim, List.dropWhile_append_of_pos before]
  -- Where nothing stands between them, the blanks behind are dropped with those in front.
  cases text with
  | nil =>
    have dropped : behind.dropWhile isBlank = [] := List.dropWhile_eq_nil_iff.mpr after
    rw [List.nil_append, dropped]
    rfl
  | cons c rest =>
    have first : (c :: rest ++ behind).dropWhile isBlank = c :: rest ++ behind := by
      rw [List.cons_append, List.dropWhile_cons_of_neg (by simp [clean c List.mem_cons_self])]
    have backwards : (c :: rest).reverse.dropWhile isBlank = (c :: rest).reverse :=
      dropWhile_of_clean fun d member => clean d (List.mem_reverse.mp member)
    rw [first, List.reverse_append,
      List.dropWhile_append_of_pos fun d member => after d (List.mem_reverse.mp member),
      backwards, List.reverse_reverse]

end AspectWeaving.Text
