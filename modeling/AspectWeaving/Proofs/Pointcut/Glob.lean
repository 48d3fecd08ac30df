import AspectWeaving.Pointcut.Glob

/-! A name pattern accepts exactly the names that it matches letter by letter. -/

namespace AspectWeaving.Pointcut.Glob

/-- What a pattern matches: a star any run of letters, a question mark any letter, and every other
letter itself. -/
inductive Matches : List Char → List Char → Prop where
  | nil : Matches [] []
  | star {pattern run rest} (others : Matches pattern rest) : Matches ('*' :: pattern) (run ++ rest)
  | question {pattern c rest} (others : Matches pattern rest) :
      Matches ('?' :: pattern) (c :: rest)
  | letter {pattern c rest} (others : Matches pattern rest) : Matches (c :: pattern) (c :: rest)

/-- A flag for each suffix of a name, longest first, that says whether the suffix is wanted. -/
inductive Flags (wanted : List Char → Prop) : List Char → List Bool → Prop where
  | nil {flag} (here : flag = true ↔ wanted []) : Flags wanted [] [flag]
  | cons {c name flag flags} (here : flag = true ↔ wanted (c :: name))
      (later : Flags wanted name flags) : Flags wanted (c :: name) (flag :: flags)

/-- The first flag is that of the whole name. -/
theorem Flags.headD {wanted : List Char → Prop} {name : List Char} {flags : List Bool}
    (flagged : Flags wanted name flags) : flags.headD false = true ↔ wanted name := by
  -- There is a flag even for the name without letters.
  cases flagged with
  | nil here => exact here
  | cons here later => exact here

/-- Looking at later places as well flags the names of which a suffix is wanted. -/
theorem Flags.holdsFrom {wanted : List Char → Prop} {name : List Char} {flags : List Bool}
    (flagged : Flags wanted name flags) :
    Flags (fun name => ∃ run rest, name = run ++ rest ∧ wanted rest) name (holdsFrom flags) := by
  -- The induction is on the name; its suffixes are itself and those of the rest.
  induction flagged with
  | nil here =>
    refine .nil ?_
    simp only [Glob.holdsFrom, List.headD_nil, Bool.or_false, here, List.nil_eq_append_iff]
    exact ⟨fun now => ⟨[], [], ⟨rfl, rfl⟩, now⟩, fun ⟨_, _, ⟨_, ends⟩, now⟩ => ends ▸ now⟩
  | @cons c name flag flags here later ih =>
    refine .cons ?_ ih
    rw [Bool.or_eq_true, here, ih.headD]
    -- A wanted suffix of a longer name is the name itself or a suffix of its rest.
    constructor
    · rintro (now | ⟨run, rest, rfl, found⟩)
      · exact ⟨[], c :: name, rfl, now⟩
      · exact ⟨c :: run, rest, rfl, found⟩
    · rintro ⟨run, rest, same, found⟩
      cases run with
      | nil => exact .inl (by rwa [same, List.nil_append])
      | cons d run =>
        obtain ⟨rfl, rfl⟩ := List.cons.inj same
        exact .inr ⟨run, rest, rfl, found⟩

/-- What a pattern that starts with a star matches ends with what the rest of it matches. -/
theorem matches_star {pattern name : List Char} :
    Matches ('*' :: pattern) name ↔ ∃ run rest, name = run ++ rest ∧ Matches pattern rest := by
  constructor
  · intro found
    -- A star that is read as a letter is a run of one letter.
    cases found with
    | star others => exact ⟨_, _, rfl, others⟩
    | letter others => exact ⟨['*'], _, rfl, others⟩
  · rintro ⟨run, rest, rfl, others⟩
    exact .star others

/-- What any other pattern matches starts with a letter that it allows. -/
theorem matches_cons {c d : Char} {pattern name : List Char} (plain : c ≠ '*') :
    Matches (c :: pattern) (d :: name) ↔ (c = '?' ∨ d = c) ∧ Matches pattern name := by
  constructor
  · generalize same : d :: name = whole
    intro found
    -- The case of the star is excluded.
    cases found with
    | star others => exact absurd rfl plain
    | question others =>
      cases same
      exact ⟨.inl rfl, others⟩
    | letter others =>
      cases same
      exact ⟨.inr rfl, others⟩
  · rintro ⟨rfl | rfl, others⟩
    · exact .question others
    · exact .letter others

/-- A pattern that does not start with a star does not match the name without letters. -/
theorem not_matches_nil {c : Char} {pattern : List Char} (plain : c ≠ '*') :
    ¬ Matches (c :: pattern) [] := by
  -- Anything but a star takes a letter.
  generalize same : ([] : List Char) = name
  intro found
  cases found with
  | star others => exact plain rfl
  | question others => cases same
  | letter others => cases same

/-- Each suffix of a name is flagged exactly if the pattern matches it. -/
theorem flags_suffixMatches (name pattern : List Char) :
    Flags (Matches pattern) name (suffixMatches name pattern) := by
  -- The induction is on the pattern, for all suffixes at once.
  induction pattern with
  | nil =>
    -- The pattern without letters matches the name without letters only.
    have empty {rest : List Char} : Matches [] rest ↔ rest = [] := by
      constructor
      · intro found
        cases found
        rfl
      · rintro rfl
        exact .nil
    induction name with
    | nil => exact .nil (by simp [empty])
    | cons c name ih => exact .cons (by simp [empty]) ih
  | cons c pattern ih =>
    rw [suffixMatches]
    split
    · next star =>
      subst star
      -- A star lets the rest of the pattern start at any later place.
      have flagged := ih.holdsFrom
      simpa only [← matches_star] using flagged
    · next plain =>
      -- Any other letter moves each flag on to the next longer suffix.
      generalize suffixMatches name pattern = flags at ih ⊢
      induction ih with
      | nil here => exact .nil (by simp [not_matches_nil plain])
      | cons here later ih =>
        cases later with
        | nil last =>
          refine .cons ?_ (.nil (by simp [not_matches_nil plain]))
          simp [matches_cons plain, last]
        | cons next later =>
          refine .cons ?_ ih
          simp [matches_cons plain, next]

/-- A pattern accepts exactly the names that it matches. -/
theorem accepts_iff {pattern name : String} :
    accepts pattern name = true ↔ Matches pattern.toList name.toList :=
  -- The flag of the whole name is the first one.
  (flags_suffixMatches name.toList pattern.toList).headD

end AspectWeaving.Pointcut.Glob
