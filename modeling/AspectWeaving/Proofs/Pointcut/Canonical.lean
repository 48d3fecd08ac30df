import AspectWeaving.Pointcut.Parser
import AspectWeaving.Proofs.Annotations.Reference
import AspectWeaving.Proofs.Dictionary
import AspectWeaving.Proofs.Fallible

/-! The canonical text of a pointcut expression: it reads back as the expression that it is written
for, so that expressions differ exactly where their canonical texts do. -/

namespace AspectWeaving.Pointcut

open Text

/-- The references of an expression as they are written, each by its characters. -/
def references (annotations : List AnnotationRef) : List (List Char) :=
  annotations.map fun reference => reference.text.toList

/-- The words that a scope is written with. -/
def Scope.words (scope : Scope) : List (List Char) := Text.words scope.text.toList

/-- An expression that can be written down and read again: its references can, and its name pattern
is one word. -/
structure Expression.Readable (expression : Expression) : Prop where
  annotations : ∀ reference ∈ expression.annotations, reference.Readable
  name : IsPart isBlank expression.name.toList

section References

variable {annotations : List AnnotationRef}

/-- Reading a part between bars gives the reference that it parses as. -/
theorem mapError_parse_eq_ok {part : List Char} {reference : AnnotationRef} :
    (AnnotationRef.parse (String.ofList part)).mapError ParseError.invalidReference =
        .ok reference ↔
      AnnotationRef.parse (String.ofList part) = .ok reference := by
  -- Only the error is turned into another one.
  cases AnnotationRef.parse (String.ofList part) <;> simp [Except.mapError]

/-- Annotations that have been read can each be written down and read again. -/
theorem readable_of_parseAnnotations {joined : List Char}
    (parsed : parseAnnotations joined = .ok annotations) :
    ∀ reference ∈ annotations, reference.Readable := by
  -- Each reference has been read off one part.
  intro reference member
  obtain ⟨part, _, read⟩ := Fallible.exists_of_mem_mapM parsed member
  exact AnnotationRef.readable_of_parse (mapError_parse_eq_ok.mp read)

/-- A reference that can be read is a part between bars. -/
theorem isPart_references (readable : ∀ reference ∈ annotations, reference.Readable) :
    ∀ item ∈ references annotations, IsPart (· == '|') item := by
  -- The text of a reference has no bar in it and is not empty.
  intro item member
  obtain ⟨reference, listed, rfl⟩ := List.mem_map.mp member
  refine ⟨?_, fun c held => ?_⟩
  · simp [AnnotationRef.Readable.toList_text]
  · simpa using ((readable reference listed).clean c held).2

/-- References joined by bars are read as what they are. -/
theorem parseAnnotations_joined (readable : ∀ reference ∈ annotations, reference.Readable) :
    parseAnnotations (['|'].intercalate (references annotations)) = .ok annotations := by
  -- The joined text is cut into the texts of the references, and each one is read back.
  unfold parseAnnotations
  rw [parts_intercalate (by decide) (isPart_references readable)]
  refine Fallible.mapM_map_eq_ok fun reference member => mapError_parse_eq_ok.mpr ?_
  rw [String.ofList_toList]
  exact (readable reference member).parse_text

/-- References joined by bars are one word, and it opens like a reference. -/
theorem isPart_joined (readable : ∀ reference ∈ annotations, reference.Readable)
    (some_ : annotations ≠ []) :
    IsPart isBlank (['|'].intercalate (references annotations)) ∧
      opensReference (['|'].intercalate (references annotations)) = true := by
  obtain ⟨first, rest, rfl⟩ := List.exists_cons_of_ne_nil some_
  have opens : (['|'].intercalate (references (first :: rest))).head? = some '@' := by
    cases rest <;> simp [references, AnnotationRef.Readable.toList_text]
  refine ⟨⟨fun empty => by simp [empty] at opens, fun c held => ?_⟩,
        by simp [opensReference, opens]⟩
  -- A character is one of a reference or a bar, and neither is a blank.
  rcases mem_intercalate held with bar | ⟨item, member, inside⟩
  · rw [List.mem_singleton.mp bar]
    decide
  · obtain ⟨reference, listed, rfl⟩ := List.mem_map.mp member
    exact ((readable reference listed).clean c inside).1

end References

section Scope

variable {scope : Scope} {tokens rest : List String}

/-- No word for a scope opens like a reference. -/
theorem opensReference_scope (scope : Scope) :
    ∀ word ∈ scope.words, opensReference word = false := by
  cases scope <;> decide +kernel

/-- The words for a scope are read as that scope, whatever follows them. -/
theorem parseScope_words (scope : Scope) (rest : List String) :
    parseScope (scope.words.map String.ofList ++ rest) = .ok (scope, rest) := by
  cases scope <;> rfl

/-- What is left behind a scope was there before. -/
theorem mem_of_parseScope (parsed : parseScope tokens = .ok (scope, rest)) {token : String}
    (member : token ∈ rest) : token ∈ tokens := by
  -- The cases are those of the words that stand for a scope.
  unfold parseScope at parsed
  split at parsed
  all_goals first
    | contradiction
    | (obtain ⟨-, rfl⟩ := Prod.mk.inj (Except.ok.inj parsed)
       simp [member])

end Scope

namespace Expression

variable {text : String} {expression : Expression}

/-- An expression is read in three steps: references, scope and name pattern. -/
theorem parse_eq_ok :
    parse text = .ok expression ↔
      ∃ annotations scope rest name,
        parseAnnotations ((words text.toList).takeWhile opensReference).flatten =
          .ok annotations ∧
        parseScope (((words text.toList).dropWhile opensReference).map String.ofList) =
          .ok (scope, rest) ∧
        parsePattern text rest = .ok name ∧ expression = of scope annotations name := by
  simp only [parse, Bind.bind, Except.bind, Pure.pure, Except.pure]
  -- The first step that fails is the end.
  cases parseAnnotations ((words text.toList).takeWhile opensReference).flatten with
  | error fault => simp
  | ok annotations =>
    cases parseScope (((words text.toList).dropWhile opensReference).map String.ofList) with
    | error fault => simp
    | ok found =>
      obtain ⟨scope, rest⟩ := found
      cases parsed : parsePattern text rest with
      | error fault => simp [parsed]
      | ok name =>
        simp only [parsed, Except.ok.injEq, Prod.mk.injEq]
        constructor
        · intro same
          exact ⟨annotations, scope, rest, name, rfl, ⟨rfl, rfl⟩, parsed, same.symm⟩
        · intro ⟨_, _, _, _, annotated, ⟨first, left⟩, named, same⟩
          subst annotated first left
          rw [parsed] at named
          obtain rfl := Except.ok.inj named
          exact same.symm

/-- What is read as an expression can be written down and read again. -/
theorem readable_of_parse (accepted : parse text = .ok expression) : expression.Readable := by
  obtain ⟨annotations, scope, rest, name, annotated, found, named, rfl⟩ :=
    parse_eq_ok.mp accepted
  refine ⟨fun reference member => ?_, ?_⟩
  · exact readable_of_parseAnnotations annotated reference (mem_of_mem_distinctBy member)
  · unfold parsePattern at named
    split at named
    · -- A pattern that is left out is a single star.
      obtain rfl := Except.ok.inj named
      show IsPart isBlank "*".toList
      refine ⟨by decide, fun c member => ?_⟩
      obtain rfl : c = '*' := by simpa using member
      decide
    · next pattern =>
      obtain rfl := Except.ok.inj named
      obtain ⟨word, left, rfl⟩ := List.mem_map.mp (mem_of_parseScope found List.mem_cons_self)
      have cut := (List.dropWhile_suffix opensReference).subset left
      show IsPart isBlank (String.ofList word).toList
      rw [String.toList_ofList]
      exact (isPart_of_mem_parts cut).1
    · contradiction

/-- The one word that references are written as, or none where there are no references. -/
def front (expression : Expression) : List (List Char) :=
  if expression.annotations = [] then []
  else [['|'].intercalate (references expression.annotations)]

/-- The words of a canonical text: the references as one word, those of the scope, the pattern. -/
theorem Readable.words_text (readable : expression.Readable) :
    words expression.text.toList =
      expression.front ++ (expression.scope.words ++ [expression.name.toList]) := by
  have blank : isBlank ' ' = true := by decide
  have name : words expression.name.toList = [expression.name.toList] := readable.name.parts_eq
  -- Each blank of the text cuts it into what is in front and what is behind.
  have behind : words ((expression.scope.text ++ " " ++ expression.name : String).toList) =
      expression.scope.words ++ [expression.name.toList] := by
    have cut := parts_append blank expression.scope.text.toList expression.name.toList
    rw [← name]
    simpa [words, Scope.words] using cut
  unfold front
  by_cases bare : expression.annotations = []
  · have plain : expression.text = expression.scope.text ++ " " ++ expression.name := by
      simp [text, bare]
    rw [plain, behind, if_pos bare, List.nil_append]
  · have joined := (isPart_joined readable.annotations bare).1.parts_eq
    have letters : expression.text.toList =
        ['|'].intercalate (references expression.annotations) ++
          ' ' :: (expression.scope.text ++ " " ++ expression.name : String).toList := by
      simp [text, bare, references, Function.comp_def, String.toList_intercalate]
    rw [letters, if_neg bare, ← behind, ← joined]
    exact parts_append blank _ _

/-- The words of a canonical text that open like references are those of the references. -/
theorem Readable.split_words (readable : expression.Readable) :
    (words expression.text.toList).takeWhile opensReference = expression.front ∧
      (words expression.text.toList).dropWhile opensReference =
        expression.scope.words ++ [expression.name.toList] := by
  have opens : ∀ word ∈ expression.front, opensReference word = true := by
    unfold front
    split
    · simp
    · next bare => simpa using (isPart_joined readable.annotations bare).2
  -- A scope is at least one word, and at that word the references end.
  obtain ⟨word, more, same⟩ : ∃ word more, expression.scope.words = word :: more := by
    cases expression.scope <;> exact ⟨_, _, rfl⟩
  have plain : opensReference word = false :=
    opensReference_scope expression.scope word (same ▸ List.mem_cons_self)
  rw [readable.words_text, List.takeWhile_append_of_pos opens, List.dropWhile_append_of_pos opens,
    same]
  simp [plain]

/-- The canonical text of an expression reads back as the expression. -/
theorem Readable.parse_text (readable : expression.Readable) :
    parse expression.text = .ok expression := by
  obtain ⟨taken, dropped⟩ := readable.split_words
  have joined : expression.front.flatten =
      ['|'].intercalate (references expression.annotations) := by
    unfold front
    split
    · next bare => simp [bare, references]
    · simp
  refine parse_eq_ok.mpr ⟨expression.annotations, expression.scope, [expression.name],
    expression.name, ?_, ?_, rfl, ?_⟩
  · rw [taken, joined]
    exact parseAnnotations_joined readable.annotations
  · rw [dropped, List.map_append]
    simpa using parseScope_words expression.scope [expression.name]
  · -- The references are listed once each, so that none is dropped.
    simp only [of, distinct_of_nodup expression.nodup]

/-- Reading a text that is accepted and writing the expression down gives a text that reads back as
the same expression, that is the same for no other expression that can be read, and that reading
and writing leaves as it is. -/
theorem canonical_text_round_trips (accepted : parse text = .ok expression) :
    parse expression.text = .ok expression ∧
      (∀ other again, parse other = .ok again →
        (expression.text = again.text ↔ expression = again)) ∧
      (parse expression.text).map Expression.text = .ok expression.text := by
  have back := (readable_of_parse accepted).parse_text
  refine ⟨back, fun other again read => ⟨fun same => ?_, fun same => by rw [same]⟩, ?_⟩
  · -- Both expressions are what one and the same text reads back as.
    have forth := (readable_of_parse read).parse_text
    rw [← same, back] at forth
    exact Except.ok.inj forth
  · rw [back]
    rfl

/-- Blanks, a repeated reference and a group that is empty but written are all that the canonical
text of this expression leaves out; its pattern opens like a reference. -/
theorem canonical_text_round_trips_untidy :
    let expression : Expression :=
      ⟨.setProperty, [⟨"", "Log"⟩, ⟨"demo", "Log"⟩], "@x|y", by decide⟩
    parse "  @:Log | @demo:Log|@Log   set property @x|y " = .ok expression ∧
      expression.text = "@Log|@demo:Log set property @x|y" ∧
      parse expression.text = .ok expression := by
  -- The text has blanks, an empty group, and one reference twice.
  intro expression
  have accepted : parse "  @:Log | @demo:Log|@Log   set property @x|y " = .ok expression := rfl
  exact ⟨accepted, rfl, (canonical_text_round_trips accepted).1⟩

end Expression

end AspectWeaving.Pointcut
