import AspectWeaving.Proofs.Pointcut.Listing

/-! The texts that are pointcut expressions: annotations, the words for a scope and a name pattern,
with blanks between them. All of these are read, and nothing else is. -/

namespace AspectWeaving.Pointcut

open Text

/-- The ways to write a scope, by its words. -/
def Scope.spellings : Scope → List (List String)
  | .classType => [["class"]]
  | .method => [["method"]]
  | .getProperty => [["get", "property"], ["property"]]
  | .setProperty => [["set", "property"]]
  | .parameter => [["parameter"]]
  | .any => [["any"]]

/-- A text of the words for a scope and of a name pattern, which may be left out. -/
def Scoped (scope : Scope) (pattern : Option String) (text : List Char) : Prop :=
  ∃ spelling ∈ scope.spellings, Spaced ((spelling ++ pattern.toList).map String.toList) text

/-- A text of items between bars, then a scope and a name pattern, with at least one blank where
there is more than blanks in front of the scope. -/
def Written (items : List (Option AnnotationRef)) (scope : Scope) (pattern : Option String)
    (front text : List Char) : Prop :=
  Listed items front ∧ ∃ gap behind, text = front ++ gap ++ behind ∧ Blank gap ∧
    (gap = [] → Blank front) ∧ Scoped scope pattern behind

/-- What should stand in front of the words for a scope: blanks alone, or references between single
bars. -/
def Grammatical (front : List Char) : Prop :=
  Blank front ∨ ∃ annotations ≠ [], Listed (annotations.map some) front

section Front

variable {items : List (Option AnnotationRef)} {front : List Char}

/-- Neither a sign nor a bar is a blank. -/
theorem not_blank_of_mem (mark : '@' ∈ front ∨ '|' ∈ front) : ¬ Blank front := by
  -- Neither sign is a blank.
  intro blank
  rcases mark with sign | bar
  · exact absurd (blank '@' sign) (by decide)
  · exact absurd (blank '|' bar) (by decide)

/-- Items of which none is missing are references. -/
theorem map_reduceOption (full : none ∉ items) : items.reduceOption.map some = items := by
  -- The induction is on the items, none of which is missing.
  induction items with
  | nil => rfl
  | cons item rest ih =>
    obtain ⟨present, others⟩ := not_or.mp (List.mem_cons.not.mp full)
    cases item with
    | none => exact absurd rfl present
    | some reference => rw [List.reduceOption_cons_of_some, List.map_cons, ih others]

/-- Blanks alone are a text of no references. -/
theorem listed_of_blank (blank : Blank front) : Listed [none] front :=
  -- A blank text is one item, which is missing.
  ⟨[front], .cons (.blank blank) .nil, by simp⟩

/-- A text has in front of a scope what should be there if none of its items is missing, or if
nothing but blanks is there. -/
theorem Listed.grammatical_iff (listed : Listed items front) :
    Grammatical front ↔ none ∉ items ∨ items = [none] := by
  -- A text is split in one way only, so that the items tell whether it is grammatical.
  by_cases some_ : items = []
  · obtain ⟨chunks, standing, rfl⟩ := listed
    rw [some_] at standing ⊢
    cases standing
    simp [Grammatical, Blank]
  · constructor
    · rintro (blank | ⟨annotations, named, references⟩)
      · exact .inr (listed.unique (listed_of_blank blank) some_ (by simp))
      · refine .inl ?_
        rw [listed.unique references some_ (by simpa using named)]
        simp
    · rintro (full | rfl)
      · have whole := map_reduceOption full
        refine .inr ⟨items.reduceOption, fun none => some_ ?_, whole.symm ▸ listed⟩
        rw [← whole, none, List.map_nil]
      · obtain ⟨chunks, standing, rfl⟩ := listed
        cases standing with
        | cons first rest =>
          cases rest
          cases first with
          | blank blank => exact .inl (by simpa using blank)

end Front

section Scope

variable {scope : Scope} {tokens rest : List String} {expression name : String}

/-- A scope is read off the front of the tokens wherever it is written there. -/
theorem parseScope_eq_ok :
    parseScope tokens = .ok (scope, rest) ↔
      ∃ spelling ∈ scope.spellings, tokens = spelling ++ rest := by
  constructor
  · intro parsed
    -- The cases are those of the words that stand for a scope.
    unfold parseScope at parsed
    split at parsed
    all_goals first
      | contradiction
      | (obtain ⟨rfl, rfl⟩ := Prod.mk.inj (Except.ok.inj parsed)
         simp [Scope.spellings])
  · rintro ⟨spelling, listed, rfl⟩
    cases scope <;> simp only [Scope.spellings, List.mem_cons, List.not_mem_nil, or_false] at listed
    case getProperty => rcases listed with rfl | rfl <;> rfl
    all_goals
      subst listed
      rfl

/-- A name pattern is read wherever no more than that is left. -/
theorem parsePattern_eq_ok :
    parsePattern expression rest = .ok name ↔
      ∃ pattern : Option String, rest = pattern.toList ∧ name = pattern.getD "*" := by
  -- There may be one word more, which is the pattern.
  constructor
  · intro parsed
    unfold parsePattern at parsed
    split at parsed
    · exact ⟨none, rfl, (Except.ok.inj parsed).symm⟩
    · exact ⟨some _, rfl, (Except.ok.inj parsed).symm⟩
    · contradiction
  · rintro ⟨_ | pattern, rfl, rfl⟩ <;> rfl

/-- However a scope is written, it does not open like a reference. -/
theorem exists_cons_of_mem_spellings {spelling : List String}
    (listed : spelling ∈ scope.spellings) :
    ∃ word others, spelling = word :: others ∧ opensReference word.toList = false := by
  -- The spellings of all scopes begin with a plain word.
  cases scope <;> simp only [Scope.spellings, List.mem_cons, List.not_mem_nil, or_false] at listed
  case getProperty => rcases listed with rfl | rfl <;> exact ⟨_, _, rfl, by decide +kernel⟩
  all_goals
    subst listed
    exact ⟨_, _, rfl, by decide +kernel⟩

/-- The words of a text that is written as an expression: those in front, then those for the scope,
of which the first one does not open like a reference, and the pattern. -/
theorem Written.words_eq {items : List (Option AnnotationRef)} {pattern : Option String}
    {front text : List Char} (written : Written items scope pattern front text) :
    ∃ word others, word :: others ∈ scope.spellings ∧ opensReference word.toList = false ∧
      words text = words front ++ (word :: others ++ pattern.toList).map String.toList := by
  -- The references and the rest have no word in common.
  obtain ⟨-, gap, behind, rfl, blank, between, spelling, listed, ending⟩ := written
  obtain ⟨word, others, rfl, plain⟩ := exists_cons_of_mem_spellings listed
  exact ⟨word, others, listed, plain, by rw [words_append blank between, ending.words_eq]⟩

end Scope

/-- No item is left without repetitions only where there was none. -/
theorem distinct_eq_nil_iff {items : List AnnotationRef} : distinct items = [] ↔ items = [] := by
  -- The first item is never left out.
  cases items <;> simp [distinct, distinctBy]

namespace Expression

variable {text : String} {expression : Expression}

/-- A text is read as an expression if and only if it is one that is written so. -/
theorem parse_eq_ok_iff_written :
    parse text = .ok expression ↔
      ∃ front items scope pattern, Written items scope pattern front text.toList ∧
        expression = of scope items.reduceOption (pattern.getD "*") := by
  rw [parse_eq_ok]
  constructor
  · rintro ⟨annotations, scope, rest, name, annotated, found, named, rfl⟩
    obtain ⟨spelling, listed, tokens⟩ := parseScope_eq_ok.mp found
    obtain ⟨pattern, rfl, rfl⟩ := parsePattern_eq_ok.mp named
    obtain ⟨word, others, rfl, -⟩ := exists_cons_of_mem_spellings listed
    have behind : (words text.toList).dropWhile opensReference =
        (word :: others ++ pattern.toList).map String.toList := by
      rw [← tokens, List.map_map]
      simp [Function.comp_def]
    have spaced := spaced_words text.toList
    rw [← List.takeWhile_append_dropWhile (p := opensReference) (l := words text.toList), behind]
      at spaced
    -- The text is cut in front of the first word that does not open like a reference.
    obtain ⟨front, gap, back, same, fronted, blank, between, ending⟩ := spaced.exists_of_append
    obtain ⟨items, standing, rfl⟩ :=
      (parseAnnotations_eq_ok fronted fun _ => List.mem_takeWhile_imp).mp annotated
    refine ⟨front, items, scope, pattern, ⟨standing, gap, back, same, blank, fun none => ?_,
      _, listed, ending⟩, rfl⟩
    rw [between none] at fronted
    exact fronted.isBlank_of_nil
  · rintro ⟨front, items, scope, pattern, written, rfl⟩
    obtain ⟨word, others, listed, plain, cut⟩ := written.words_eq
    have fronted := spaced_words front
    have opens := (opens_iff fronted).mp written.1.opens
    refine ⟨items.reduceOption, scope, pattern.toList, pattern.getD "*", ?_, ?_, ?_, rfl⟩
    · rw [cut, List.takeWhile_append_of_pos opens]
      simpa [plain] using (parseAnnotations_eq_ok fronted opens).mpr ⟨items, written.1, rfl⟩
    · rw [cut, List.dropWhile_append_of_pos opens]
      refine parseScope_eq_ok.mpr ⟨_, listed, ?_⟩
      simp [plain, Function.comp_def]
    · exact parsePattern_eq_ok.mpr ⟨pattern, rfl, rfl⟩

/-- Expressions that can be read are the same if they are written the same. -/
theorem Readable.text_eq_iff {other : Expression} (readable : expression.Readable)
    (again : other.Readable) : other.text = expression.text ↔ other = expression := by
  -- A text is parsed back.
  refine ⟨fun same => ?_, fun same => by rw [same]⟩
  have back := again.parse_text
  rw [same, readable.parse_text] at back
  exact (Except.ok.inj back).symm

/-- Whatever is written with references, in any spelling of theirs and of the scope and with blanks
wherever they may stand, is read as the expression with these references, this scope and this
pattern. The canonical text depends on nothing else, and not on repeated references. -/
theorem parse_of_written {annotations : List AnnotationRef} {scope : Scope}
    {pattern : Option String} {front : List Char}
    (written : Written (annotations.map some) scope pattern front text.toList) :
    parse text = .ok (of scope annotations (pattern.getD "*")) ∧
      ∀ {others : List AnnotationRef} {kind : Scope} {name : Option String} {start : List Char}
        {other : String}, Written (others.map some) kind name start other.toList →
          ((parse other).map Expression.text = (parse text).map Expression.text ↔
            kind = scope ∧ distinct others = distinct annotations ∧
              name.getD "*" = pattern.getD "*") := by
  -- Parsing gives what is written, and expressions are told apart by their texts.
  have read {annotations : List AnnotationRef} {scope : Scope} {pattern : Option String}
      {front : List Char} {text : String}
      (written : Written (annotations.map some) scope pattern front text.toList) :
      parse text = .ok (of scope annotations (pattern.getD "*")) :=
    parse_eq_ok_iff_written.mpr ⟨front, _, scope, pattern, written, by simp [List.reduceOption]⟩
  refine ⟨read written, fun again => ?_⟩
  have same := (readable_of_parse (read written)).text_eq_iff (readable_of_parse (read again))
  rw [read written, read again]
  simpa [Except.map, of] using same

/-- A text that spells things out, has blanks of several sorts, and repeats a reference. -/
theorem parse_of_written_untidy :
    let annotations : List AnnotationRef := [⟨"", "Log"⟩, ⟨"demo", "Größe"⟩, ⟨"", "Log"⟩]
    Written (annotations.map some) .getProperty (some "user*") " @:Log |@demo:Größe|\t@Log".toList
        " @:Log |@demo:Größe|\t@Log  property\tuser* ".toList ∧
      parse " @:Log |@demo:Größe|\t@Log  property\tuser* " =
        .ok (of .getProperty annotations "user*") := by
  -- The references have blanks around them, and one occurs twice.
  intro annotations
  have readable : ∀ reference ∈ annotations, reference.Readable := by decide +kernel
  have first : Item (some ⟨"", "Log"⟩) " @:Log ".toList :=
    @Item.reference _ " ".toList _ " ".toList (readable _ (by simp [annotations])) .full
      (by decide) (by decide)
  have second : Item (some ⟨"demo", "Größe"⟩) "@demo:Größe".toList :=
    @Item.reference _ [] _ [] (readable _ (by simp [annotations])) .full (by decide) (by decide)
  have third : Item (some ⟨"", "Log"⟩) "\t@Log".toList :=
    @Item.reference _ "\t".toList _ [] (readable _ (by simp [annotations])) (.short rfl)
      (by decide) (by decide)
  have written : Written (annotations.map some) .getProperty (some "user*")
      " @:Log |@demo:Größe|\t@Log".toList
      " @:Log |@demo:Größe|\t@Log  property\tuser* ".toList :=
    ⟨⟨_, .cons first (.cons second (.cons third .nil)), by decide +kernel⟩, "  ".toList,
      "property\tuser* ".toList, by decide +kernel, by decide, by decide, ["property"], by decide,
      words_eq_iff.mp (by decide +kernel)⟩
  exact ⟨written, (parse_of_written written).1⟩

/-- What has been read has in front of the words for the scope items between bars, however the text
is cut there. These are what they should be unless one of them is missing beside a bar, and an
expression selects on annotations if there is a sign in front, but not on account of bars alone. -/
theorem parse_grammatical (accepted : parse text = .ok expression) :
    (∃ items scope pattern front, Written items scope pattern front text.toList) ∧
      ∀ {items : List (Option AnnotationRef)} {scope : Scope} {pattern : Option String}
        {front : List Char}, Written items scope pattern front text.toList →
          expression = of scope items.reduceOption (pattern.getD "*") ∧
          (Grammatical front ↔ none ∉ items ∨ items = [none]) ∧
          (Grammatical front → '@' ∈ front ∨ '|' ∈ front → expression.annotations ≠ []) ∧
          (expression.annotations ≠ [] ↔ '@' ∈ front) := by
  -- An accepted text is written in one way, off which all else can be read.
  refine ⟨?_, fun {items scope pattern front} written => ?_⟩
  · obtain ⟨front, items, scope, pattern, written, -⟩ := parse_eq_ok_iff_written.mp accepted
    exact ⟨items, scope, pattern, front, written⟩
  · have read := parse_eq_ok_iff_written.mpr ⟨front, items, scope, pattern, written, rfl⟩
    obtain rfl := Except.ok.inj (accepted.symm.trans read)
    have signed : (of scope items.reduceOption (pattern.getD "*")).annotations ≠ [] ↔
        '@' ∈ front := by
      rw [written.1.sign_iff]
      exact distinct_eq_nil_iff.not
    refine ⟨rfl, written.1.grammatical_iff, fun proper mark => signed.mpr ?_, signed⟩
    rcases proper with blank | ⟨annotations, named, references⟩
    · exact absurd blank (not_blank_of_mem mark)
    · exact references.sign_iff.mpr (by simpa [List.reduceOption] using named)

/-- Of the two references the second one is spelled out; nothing is missing beside the bar. -/
theorem parse_grammatical_pair :
    ∃ expression, parse "@a:X | @:Y set property" = .ok expression ∧
      ∃ items scope pattern front,
        Written items scope pattern front "@a:X | @:Y set property".toList ∧
        expression = of scope items.reduceOption (pattern.getD "*") := by
  -- The text is accepted with two references.
  have accepted : parse "@a:X | @:Y set property" =
      .ok (of .setProperty [⟨"a", "X"⟩, ⟨"", "Y"⟩] "*") := rfl
  obtain ⟨⟨items, scope, pattern, front, written⟩, properties⟩ := parse_grammatical accepted
  exact ⟨_, accepted, items, scope, pattern, front, written, (properties written).1⟩

/-- A bar with nothing beside it is read as no annotations at all, although nothing that stands in
front of the word for the scope is what should be there. -/
theorem bar_not_grammatical :
    parse "| method *" = .ok (of .method [] "*") ∧
      ∀ items scope pattern front, Written items scope pattern front "| method *".toList →
        ¬ Grammatical front := by
  refine ⟨rfl, fun items scope pattern front written proper => ?_⟩
  rcases proper with blank | ⟨annotations, named, references⟩
  · -- Then the bar would be the first word for the scope.
    obtain ⟨word, others, -, plain, cut⟩ := written.words_eq
    have first : (words "| method *".toList).head? = some ['|'] := by decide
    rw [cut, words_of_blank blank] at first
    have bar : word.toList = ['|'] := by simpa using first
    rw [bar] at plain
    exact absurd plain (by decide)
  · -- Then there would be a sign in the text.
    obtain ⟨-, gap, behind, same, -⟩ := written
    have sign : '@' ∈ front := references.sign_iff.mpr (by simpa [List.reduceOption] using named)
    have inside : '@' ∈ "| method *".toList := by simp [same, sign]
    exact absurd inside (by decide)

end Expression

end AspectWeaving.Pointcut
