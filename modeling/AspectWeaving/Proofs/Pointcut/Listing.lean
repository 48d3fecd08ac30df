import AspectWeaving.Proofs.Annotations.Spelling
import AspectWeaving.Proofs.Pointcut.Canonical
import AspectWeaving.Proofs.Text.Words
import Mathlib.Data.List.Forall2
import Mathlib.Data.List.ReduceOption

/-! The annotations in front of a pointcut expression: references between bars, where blanks may
stand around a reference and in place of it. -/

namespace AspectWeaving.Pointcut

open Text

/-- What stands between two bars: blanks alone, or a reference with any blanks around it. -/
inductive Item : Option AnnotationRef → List Char → Prop
  | blank {gap} (blank : Blank gap) : Item none gap
  | reference {reference before spelled after} (readable : AnnotationRef.Readable reference)
      (standing : reference.Spelled spelled) (leading : Blank before) (trailing : Blank after) :
      Item (some reference) (before ++ spelled ++ after)

/-- A text with the given items between its bars. -/
def Listed (items : List (Option AnnotationRef)) (text : List Char) : Prop :=
  ∃ chunks, List.Forall₂ Item items chunks ∧ text = ['|'].intercalate chunks

/-- Whether each word of a text opens like a reference; where the text is not `fresh`, its first
characters are those of a word begun before. -/
def opensThroughout (fresh : Bool) : List Char → Bool
  | [] => true
  | c :: rest =>
    if isBlank c then opensThroughout true rest
    else (!fresh || c == '@' || c == '|') && opensThroughout false rest

section Opening

variable {fresh : Bool} {gap body word front rest text : List Char} {items : List (List Char)}

/-- Words that open like references do so wherever the text before them has ended. -/
theorem opens_of_opens_true (opens : opensThroughout true text = true) :
    opensThroughout fresh text = true := by
  -- In the middle of a word less is asked for than at its start.
  cases fresh with
  | true => exact opens
  | false =>
    cases text with
    | nil => rfl
    | cons c rest =>
      rw [opensThroughout] at opens ⊢
      split at opens
      · next blank => rw [if_pos blank, opens]
      · next plain => simpa [plain] using (Bool.and_eq_true_iff.mp opens).2

/-- A text that is taken for the end of a word has no more words to open than it has by itself. -/
theorem opens_of_opens (opens : opensThroughout fresh text = true) :
    opensThroughout false text = true := by
  -- In the middle of a word less is asked for than at its start.
  cases fresh with
  | true => exact opens_of_opens_true opens
  | false => exact opens

/-- No new word opens in a text without blanks. -/
theorem opens_append_of_clean (clean : ∀ c ∈ body, isBlank c = false) (rest : List Char) :
    opensThroughout false (body ++ rest) = opensThroughout false rest := by
  -- The induction is on the body, which has no blank in it.
  induction body with
  | nil => rfl
  | cons c body ih =>
    have others := ih fun d member => clean d (List.mem_cons_of_mem c member)
    rw [List.cons_append, opensThroughout, others]
    simp [clean c List.mem_cons_self]

/-- Blanks open no word. -/
theorem opens_append_of_blank (blank : Blank gap) (rest : List Char) :
    opensThroughout true (gap ++ rest) = opensThroughout true rest := by
  -- The induction is on the blanks.
  induction gap with
  | nil => rfl
  | cons c gap ih =>
    rw [List.cons_append, opensThroughout, if_pos (blank c List.mem_cons_self),
      ih fun d member => blank d (List.mem_cons_of_mem c member)]

/-- The words of a text open like references if those of the text do that it begins with. -/
theorem opens_of_append_left (opens : opensThroughout fresh (front ++ rest) = true) :
    opensThroughout fresh front = true := by
  -- The induction is on the front, whose words begin where those of the whole text do.
  induction front generalizing fresh with
  | nil => rfl
  | cons c front ih =>
    rw [List.cons_append, opensThroughout] at opens
    rw [opensThroughout]
    split at opens
    · next blank => rw [if_pos blank, ih opens]
    · next plain =>
      obtain ⟨first, others⟩ := Bool.and_eq_true_iff.mp opens
      rw [if_neg plain, first, ih others, Bool.and_self]

/-- The words that begin in what is left of a text open like references if those of it do. -/
theorem opens_of_append_right (opens : opensThroughout fresh (front ++ rest) = true) :
    opensThroughout false rest = true := by
  -- The induction is on the front; behind it, words may have begun already.
  induction front generalizing fresh with
  | nil => exact opens_of_opens opens
  | cons c front ih =>
    rw [List.cons_append, opensThroughout] at opens
    split at opens
    · exact ih opens
    · exact ih (Bool.and_eq_true_iff.mp opens).2

/-- The words that begin between two bars open like references if those of the whole text do. -/
theorem opens_of_intercalate
    (opens : opensThroughout fresh (['|'].intercalate items) = true) :
    ∀ chunk ∈ items, opensThroughout false chunk = true := by
  -- The induction is on the items, which stand on both sides of a bar.
  induction items generalizing fresh with
  | nil => simp
  | cons first others ih =>
    cases others with
    | nil =>
      rw [List.intercalate_singleton] at opens
      simpa using opens_of_opens opens
    | cons next more =>
      rw [List.intercalate_cons_cons, List.append_assoc] at opens
      have alone := opens_of_append_left (opens_of_opens opens)
      have behind := opens_of_append_right opens
      exact List.forall_mem_cons.mpr ⟨alone, ih (opens_of_append_right behind)⟩

/-- Going through the characters finds what the words of a text open like. -/
theorem opens_iff (spaced : Spaced items text) :
    opensThroughout true text = true ↔ ∀ word ∈ items, opensReference word = true := by
  induction spaced with
  | nil => simp [opensThroughout]
  | blank blank _ ih => rw [opensThroughout, if_pos blank, ih]
  | @word word items text part ended _ ih =>
    -- What follows the word begins with a blank, so that it does not matter how the word ended.
    have after : opensThroughout false text = opensThroughout true text := by
      cases text with
      | nil => rfl
      | cons c rest => simp [opensThroughout, ended c rfl]
    obtain ⟨c, body, rfl⟩ := List.exists_cons_of_ne_nil part.nonempty
    have plain := part.clean c List.mem_cons_self
    have clean : ∀ d ∈ body, isBlank d = false := fun d member =>
      part.clean d (List.mem_cons_of_mem c member)
    rw [List.cons_append, opensThroughout, opens_append_of_clean clean, after, List.forall_mem_cons,
      ← ih]
    simp [plain, opensReference]

end Opening

section Items

variable {item : Option AnnotationRef} {items : List (Option AnnotationRef)}
  {text chunk rest : List Char} {chunks : List (List Char)} {reference : AnnotationRef}

/-- No bar stands in what stands between bars. -/
theorem Item.barless (standing : Item item chunk) : '|' ∉ chunk := by
  -- A reference has no bar in it, and neither has a gap.
  have apart {gap : List Char} (blank : Blank gap) : '|' ∉ gap := fun member => by
    have := blank '|' member
    revert this
    decide
  cases standing with
  | blank blank => exact apart blank
  | reference readable spelled leading trailing =>
    obtain ⟨body, rfl, plain⟩ := spelled.exists_cons readable
    have inside : '|' ∉ body := fun member => (plain '|' member).2.2 rfl
    simp [apart leading, apart trailing, inside]

/-- Bars stand only between the items. -/
theorem barless_of_standing (standing : List.Forall₂ Item items chunks) :
    ∀ chunk ∈ chunks, '|' ∉ chunk := by
  -- The induction is on the items.
  induction standing with
  | nil => simp
  | cons first _ ih => exact List.forall_mem_cons.mpr ⟨first.barless, ih⟩

/-- Each word between bars opens like a reference. -/
theorem Item.opens (standing : Item item chunk) (opens : opensThroughout true rest = true) :
    opensThroughout true (chunk ++ rest) = true := by
  -- A reference begins with its sign, and has no blank in it.
  cases standing with
  | blank blank => rw [opens_append_of_blank blank, opens]
  | reference readable spelled leading trailing =>
    obtain ⟨body, rfl, plain⟩ := spelled.exists_cons readable
    rw [List.append_assoc, List.append_assoc, opens_append_of_blank leading, List.cons_append,
      opensThroughout, opens_append_of_clean fun c member => (plain c member).1]
    have behind := (opens_append_of_blank trailing rest).trans opens
    simp [opens_of_opens_true behind, show isBlank '@' = false by decide]

/-- Each word between bars opens like a reference, with nothing behind it. -/
theorem Item.opens_alone (standing : Item item chunk) : opensThroughout true chunk = true := by
  -- Nothing comes behind it.
  have ended : opensThroughout true [] = true := rfl
  simpa using standing.opens ended

/-- Each word of a text opens like a reference if there are only references between its bars. -/
theorem Listed.opens (listed : Listed items text) : opensThroughout true text = true := by
  -- The induction is on the items; a bar may open a word.
  obtain ⟨chunks, standing, rfl⟩ := listed
  induction standing with
  | nil => rfl
  | @cons item chunk items chunks first others ih =>
    cases chunks with
    | nil => simpa using first.opens_alone
    | cons next more =>
      rw [List.intercalate_cons_cons, List.append_assoc]
      refine first.opens ?_
      rw [List.singleton_append, opensThroughout]
      simp [opens_of_opens_true ih, show isBlank '|' = false by decide]

/-- Behind the sign that opens a reference there are only blanks once its characters are through,
as a further word would open with another sign. -/
theorem exists_blank_of_opens {body : List Char} (opens : opensThroughout false text = true)
    (left : unspaced text = body) (plain : ∀ c ∈ body, c ≠ '@' ∧ c ≠ '|') :
    ∃ after, text = body ++ after ∧ Blank after := by
  induction text generalizing body with
  | nil => exact ⟨[], by simp [← left, unspaced], by simp [Blank]⟩
  | cons c rest ih =>
    rw [opensThroughout] at opens
    split at opens
    · next blank =>
      -- A word behind the blank would have to open with a sign.
      have none : words rest = [] := by
        refine List.eq_nil_iff_forall_not_mem.mpr fun word member => ?_
        have head := (opens_iff (spaced_words rest)).mp opens word member
        have part := (isPart_of_mem_parts member).1
        obtain ⟨d, others, rfl⟩ := List.exists_cons_of_ne_nil part.nonempty
        have inside : d ∈ body := by
          rw [← left, unspaced, List.filter_cons_of_neg (by simp [blank]), ← unspaced,
            ← (spaced_words rest).flatten_eq]
          exact List.mem_flatten.mpr ⟨_, member, List.mem_cons_self⟩
        simp [opensReference, (plain d inside).1, (plain d inside).2] at head
      have blanks : Blank rest := Spaced.isBlank_of_nil (none ▸ spaced_words rest)
      have whole : Blank (c :: rest) := List.forall_mem_cons.mpr ⟨blank, blanks⟩
      rw [unspaced_eq_nil_iff.mpr whole] at left
      subst left
      exact ⟨c :: rest, rfl, whole⟩
    · next nonblank =>
      rw [unspaced, List.filter_cons_of_pos (by simp [nonblank])] at left
      subst left
      obtain ⟨after, same, blank⟩ := ih (Bool.and_eq_true_iff.mp opens).2 rfl fun d member =>
        plain d (List.mem_cons_of_mem c member)
      exact ⟨after, congrArg (c :: ·) same, blank⟩

/-- What stands between bars is known by its characters without the blanks, if each of its words
opens like a reference. -/
theorem item_iff (opens : opensThroughout false chunk = true) :
    Item item chunk ↔
      (item = none ∧ unspaced chunk = []) ∨
        ∃ reference, item = some reference ∧
          AnnotationRef.ofChars? (unspaced chunk) = some reference := by
  -- An item without its blanks is empty or is read as a reference.
  have clean : ∀ c ∈ unspaced chunk, isBlank c = false := fun c member =>
    (of_mem_unspaced member).2
  constructor
  · intro standing
    cases standing with
    | blank blank => exact .inl ⟨rfl, unspaced_eq_nil_iff.mpr blank⟩
    | @reference reference before spelled after readable standing leading trailing =>
      have left : unspaced (before ++ spelled ++ after) = spelled := by
        rw [unspaced_append, unspaced_append, unspaced_eq_nil_iff.mpr leading,
          unspaced_eq_nil_iff.mpr trailing, unspaced_of_clean (standing.clean readable),
          List.nil_append, List.append_nil]
      refine .inr ⟨reference, rfl, (AnnotationRef.ofChars?_eq_some_iff clean).mpr ⟨readable, ?_⟩⟩
      rw [left]
      exact standing
  · rintro (⟨rfl, empty⟩ | ⟨reference, rfl, read⟩)
    · exact .blank (unspaced_eq_nil_iff.mp empty)
    · obtain ⟨readable, spelled⟩ := (AnnotationRef.ofChars?_eq_some_iff clean).mp read
      obtain ⟨body, left, plain⟩ := spelled.exists_cons readable
      obtain ⟨before, rest, rfl, blank, -, behind⟩ := List.filter_eq_cons_iff.mp left
      have leading : Blank before := fun c member => by simpa using blank c member
      rw [List.append_cons] at opens
      -- Behind the reference there are blanks only, since a word would open with another sign.
      obtain ⟨after, rfl, trailing⟩ := exists_blank_of_opens (opens_of_append_right opens) behind
        fun c member => (plain c member).2
      rw [left] at spelled
      simpa using Item.reference readable spelled leading trailing

/-- A text of items is cut at its bars into what is left of the items without their blanks. -/
theorem parts_unspaced (barless : ∀ chunk ∈ chunks, '|' ∉ chunk) :
    parts (· == '|') (unspaced (['|'].intercalate chunks)) =
      (chunks.map unspaced).filter fun chunk => !chunk.isEmpty := by
  -- The induction is on the chunks, which are cut at the bars between them.
  have whole {chunk : List Char} (barless : '|' ∉ chunk) :
      parts (· == '|') (unspaced chunk) = [unspaced chunk].filter fun chunk => !chunk.isEmpty := by
    have plain : ∀ c ∈ unspaced chunk, (c == '|') = false := fun c member =>
      beq_false_of_ne fun same => barless (same ▸ (of_mem_unspaced member).1)
    rw [parts, pieces_eq_splitOnP, List.splitOnP_eq_singleton plain]
  induction chunks with
  | nil => rfl
  | cons chunk rest ih =>
    have first := whole (barless chunk List.mem_cons_self)
    have others := ih fun other member => barless other (List.mem_cons_of_mem chunk member)
    cases rest with
    | nil => simpa using first
    | cons next more =>
      have bar : isBlank '|' = false := by decide
      have split : unspaced (['|'].intercalate (chunk :: next :: more)) =
          unspaced chunk ++ '|' :: unspaced (['|'].intercalate (next :: more)) := by
        simp [unspaced, List.intercalate_cons_cons, bar]
      rw [split, parts_append (by decide), first, others, ← List.filter_append]
      rfl

/-- A part between bars is read by its characters. -/
theorem read_eq_ok {part : List Char} :
    (AnnotationRef.parse (String.ofList part)).mapError ParseError.invalidReference =
        .ok reference ↔
      AnnotationRef.ofChars? part = some reference := by
  -- Only the error is turned into another one.
  rw [mapError_parse_eq_ok, AnnotationRef.parse, String.toList_ofList]
  cases AnnotationRef.ofChars? part <;> simp

/-- Reading what is left of the items gives the references among them. -/
theorem mapM_unspaced_eq_ok {annotations : List AnnotationRef}
    (opens : ∀ chunk ∈ chunks, opensThroughout false chunk = true) :
    ((chunks.map unspaced).filter fun chunk => !chunk.isEmpty).mapM (fun part =>
        (AnnotationRef.parse (String.ofList part)).mapError ParseError.invalidReference) =
          .ok annotations ↔
      ∃ items, List.Forall₂ Item items chunks ∧ annotations = items.reduceOption := by
  induction chunks generalizing annotations with
  | nil => simp [Pure.pure, Except.pure, eq_comm]
  | cons chunk rest ih =>
    have known := opens chunk List.mem_cons_self
    have later : ∀ other ∈ rest, opensThroughout false other = true := fun other member =>
      opens other (List.mem_cons_of_mem chunk member)
    simp only [List.forall₂_cons_right_iff]
    by_cases empty : unspaced chunk = []
    · -- A part that nothing is left of is passed over.
      have nothing : AnnotationRef.ofChars? [] = none := rfl
      simp [empty, item_iff known, nothing, ih later]
    · rw [List.map_cons, List.filter_cons_of_pos (by simp [empty]), Fallible.mapM_cons_eq_ok]
      constructor
      · rintro ⟨reference, others, first, read, rfl⟩
        obtain ⟨items, standing, rfl⟩ := (ih later).mp read
        have found := (item_iff known).mpr (.inr ⟨reference, rfl, read_eq_ok.mp first⟩)
        exact ⟨some reference :: items, ⟨_, _, found, standing, rfl⟩, rfl⟩
      · rintro ⟨_, ⟨item, items, first, standing, rfl⟩, rfl⟩
        rcases (item_iff known).mp first with ⟨-, gone⟩ | ⟨reference, rfl, found⟩
        · exact absurd gone empty
        · exact ⟨reference, items.reduceOption, read_eq_ok.mpr found,
            (ih later).mpr ⟨items, standing, rfl⟩, rfl⟩

/-- The words that open like references are read as the references that stand between the bars of
the text that they are the words of. -/
theorem parseAnnotations_eq_ok {words : List (List Char)} {annotations : List AnnotationRef}
    (spaced : Spaced words text) (opening : ∀ word ∈ words, opensReference word = true) :
    parseAnnotations words.flatten = .ok annotations ↔
      ∃ items, Listed items text ∧ annotations = items.reduceOption := by
  -- The text is cut at its bars into chunks, each of which is one item.
  have opens := (opens_iff spaced).mpr opening
  rw [parseAnnotations, spaced.flatten_eq]
  constructor
  · intro read
    have cut : ['|'].intercalate (pieces (· == '|') text) = text := by
      rw [pieces_eq_splitOnP]
      exact List.intercalate_splitOn '|'
    have barless : ∀ chunk ∈ pieces (· == '|') text, '|' ∉ chunk := fun chunk member bar => by
      simpa using (of_mem_pieces member '|' bar).2
    rw [← cut] at opens read
    rw [parts_unspaced barless, mapM_unspaced_eq_ok (opens_of_intercalate opens)] at read
    obtain ⟨items, standing, same⟩ := read
    exact ⟨items, ⟨_, standing, cut.symm⟩, same⟩
  · rintro ⟨items, ⟨chunks, standing, rfl⟩, same⟩
    rw [parts_unspaced (barless_of_standing standing),
      mapM_unspaced_eq_ok (opens_of_intercalate opens)]
    exact ⟨items, standing, same⟩

/-- What stands between bars is one thing only: blanks, or one reference. -/
theorem Item.unique {other : Option AnnotationRef} (first : Item item chunk)
    (second : Item other chunk) : item = other := by
  -- A chunk without its blanks is either empty or read as one reference.
  have opens : opensThroughout false chunk = true := opens_of_opens first.opens_alone
  rcases (item_iff opens).mp first with ⟨rfl, empty⟩ | ⟨reference, rfl, read⟩ <;>
    rcases (item_iff opens).mp second with ⟨rfl, left⟩ | ⟨again, rfl, reread⟩
  · rfl
  · rw [empty] at reread
    contradiction
  · rw [left] at read
    contradiction
  · rw [← read, reread]

/-- A text has items between its bars in one way only, but that one without any bar may have none
or be one of blanks. -/
theorem Listed.unique {others : List (Option AnnotationRef)} (first : Listed items text)
    (second : Listed others text) (some_ : items ≠ []) (more : others ≠ []) : items = others := by
  -- Both ways to list the text cut it at all of its bars.
  obtain ⟨chunks, standing, rfl⟩ := first
  obtain ⟨pieces, again, same⟩ := second
  have cut {items : List (Option AnnotationRef)} {chunks : List (List Char)}
      (standing : List.Forall₂ Item items chunks) (some_ : items ≠ []) :
      (['|'].intercalate chunks).splitOn '|' = chunks := by
    refine List.splitOn_intercalate '|' (barless_of_standing standing) fun none => some_ ?_
    rw [none] at standing
    exact List.forall₂_nil_right_iff.mp standing
  have equal : pieces = chunks := by rw [← cut again more, ← same, cut standing some_]
  subst equal
  have single : Relator.LeftUnique Item := fun _ _ _ first second => first.unique second
  exact single.forall₂ standing again

/-- A sign stands between two bars where a reference does. -/
theorem Item.sign_iff (standing : Item item chunk) : '@' ∈ chunk ↔ item.isSome := by
  -- A reference begins with the sign, and a blank item has none.
  cases standing with
  | blank blank =>
    refine iff_of_false (fun member => ?_) (by simp)
    have := blank '@' member
    revert this
    decide
  | reference readable spelled leading trailing =>
    obtain ⟨body, rfl, -⟩ := spelled.exists_cons readable
    simp

/-- A sign stands in a text where there is a reference between its bars. -/
theorem Listed.sign_iff (listed : Listed items text) : '@' ∈ text ↔ items.reduceOption ≠ [] := by
  -- The induction is on the items; a bar is no sign.
  obtain ⟨chunks, standing, rfl⟩ := listed
  induction standing with
  | nil => simp
  | @cons item chunk items chunks first others ih =>
    have either : '@' ∈ ['|'].intercalate (chunk :: chunks) ↔
        '@' ∈ chunk ∨ '@' ∈ ['|'].intercalate chunks := by
      cases chunks <;> simp [List.intercalate_cons_cons]
    rw [either, first.sign_iff, ih]
    cases item <;> simp

end Items

end AspectWeaving.Pointcut
