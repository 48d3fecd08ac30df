import AspectWeaving.Annotations.Catalog
import AspectWeaving.Proofs.Annotations.Reference
import AspectWeaving.Proofs.NamedArena.Calls

/-! Declaring annotations: each written reference gets one declaration, and two references are
written alike only if a colon in the name of one stands where the other has its group end. -/

namespace AspectWeaving

namespace AnnotationRef

variable {reference other : AnnotationRef}

/-- One reference has in its name a colon that another one has after its group. -/
inductive Spells : AnnotationRef → AnnotationRef → Prop where
  | whole (group name : String) (grouped : group ≠ "") :
      Spells ⟨"", group ++ ":" ++ name⟩ ⟨group, name⟩
  | part (front back name : String) (grouped : front ≠ "") :
      Spells ⟨front, back ++ ":" ++ name⟩ ⟨front ++ ":" ++ back, name⟩

/-- Two references that put one colon of their common text to different use. -/
def Clash (reference other : AnnotationRef) : Prop :=
  reference.Spells other ∨ other.Spells reference

/-- A reference is written like one that it spells. -/
theorem text_eq_of_spells (spells : reference.Spells other) : reference.text = other.text := by
  -- In both ways of spelling the signs are the same, only grouped differently.
  cases spells with
  | whole group name grouped => simp [text, grouped, String.append_assoc]
  | part front back name grouped => simp [text, grouped, String.append_assoc]

/-- A group that is cut from a name at an earlier colon than another spells the other in its name.
-/
theorem spells_of_append {group name later last : String} (grouped : group ≠ "")
    {between : List Char} (longer : later.toList = group.toList ++ between)
    (rest : ':' :: name.toList = between ++ ':' :: last.toList) :
    (⟨group, name⟩ : AnnotationRef) = ⟨later, last⟩ ∨ Spells ⟨group, name⟩ ⟨later, last⟩ := by
  -- The two groups are equal, or the longer one goes on with a colon.
  cases between with
  | nil =>
    have sameGroup : later = group := String.toList_inj.mp (by simpa using longer)
    have sameName : name = last := String.toList_inj.mp (by simpa using rest)
    exact .inl (by rw [sameGroup, sameName])
  | cons sign back =>
    obtain ⟨rfl, tail⟩ := List.cons.inj rest
    -- The rest of the longer group is the front of the other name.
    have group' : later = group ++ ":" ++ String.ofList back := by
      apply String.toList_inj.mp
      simp [longer]
    have name' : name = String.ofList back ++ ":" ++ last := by
      apply String.toList_inj.mp
      simp [tail]
    rw [group', name']
    exact .inr (.part group _ last grouped)

/-- Two references are written alike exactly if they are the same, or one colon stands in the name
of one of them and behind the group of the other. -/
theorem text_eq_iff : reference.text = other.text ↔ reference = other ∨ reference.Clash other := by
  constructor
  · intro same
    obtain ⟨group, name⟩ := reference
    obtain ⟨later, last⟩ := other
    have body := congrArg String.toList same
    simp only [Readable.toList_text, List.cons.injEq, true_and] at body
    by_cases bare : group = "" <;> by_cases bare' : later = ""
    · -- Only the names are written.
      have names : name = last := String.toList_inj.mp (by simpa [bare, bare'] using body)
      exact .inl (by rw [bare, bare', names])
    · -- The name alone is what the other one has of both its parts.
      have whole : name = later ++ ":" ++ last := by
        apply String.toList_inj.mp
        simpa [bare, bare'] using body
      rw [bare, whole]
      exact .inr (.inl (.whole later last bare'))
    · have whole : last = group ++ ":" ++ name := by
        apply String.toList_inj.mp
        simpa [bare, bare'] using body.symm
      rw [bare', whole]
      exact .inr (.inr (.whole group name bare))
    · -- One of the groups goes on where the other one ends.
      have parts : group.toList ++ ':' :: name.toList = later.toList ++ ':' :: last.toList := by
        simpa [bare, bare'] using body
      rcases List.append_eq_append_iff.mp parts with ⟨_, longer, rest⟩ | ⟨_, longer, rest⟩
      · exact (spells_of_append bare longer rest).imp_right .inl
      · exact (spells_of_append bare' longer rest).imp Eq.symm .inr
  · rintro (rfl | spells | spells)
    · rfl
    · exact text_eq_of_spells spells
    · exact (text_eq_of_spells spells).symm

/-- A reference whose name holds no colon spells no other. -/
theorem not_spells_of_not_mem (plain : ':' ∉ reference.name.toList) :
    ¬ reference.Spells other := by
  -- Either way of spelling cuts the name at a colon that it has.
  intro spells
  cases spells <;> simp at plain

end AnnotationRef

namespace Catalog

variable {β : Type}

/-- A declaration that was asked for, and the one that was given for it. -/
structure Grant (β : Type) where
  asked : AnnotationDecl β
  given : AnnotationDecl β

/-- A catalog, and what has been given by it, in order. -/
structure Record (β : Type) where
  catalog : Catalog β
  grants : List (Grant β)

/-- What declaring an annotation can come to: the one that is there, a conflict of kinds, or a new
one. -/
inductive Declared (catalog : Catalog β) (asked : AnnotationDecl β) :
    Except WeavingError (AnnotationDecl β × Catalog β) → Prop where
  | again (existing) (there : catalog.find? asked.reference = some existing)
      (fits : existing.kind = asked.kind) : Declared catalog asked (.ok (existing, catalog))
  | conflict (existing) (there : catalog.find? asked.reference = some existing)
      (differs : existing.kind ≠ asked.kind) :
      Declared catalog asked (.error (.annotationKindConflict asked.reference existing.kind))
  | anew (absent : catalog.find? asked.reference = none) :
      Declared catalog asked
        (.ok (asked, ⟨(catalog.declarations.add asked.reference.text asked).2⟩))

/-- Declaring an annotation comes to one of these. -/
theorem declared_declare (catalog : Catalog β) (asked : AnnotationDecl β) :
    Declared catalog asked (catalog.declare asked) := by
  -- What happens depends on whether the text is taken, and by which kind.
  unfold declare
  cases there : catalog.find? asked.reference with
  | none => exact .anew there
  | some existing =>
    by_cases fits : existing.kind = asked.kind
    · simpa [fits] using Declared.again existing there fits
    · simpa [fits] using Declared.conflict existing there fits

namespace Record

/-- Nothing is given yet. -/
def empty : Record β := ⟨Catalog.empty, []⟩

/-- One declaration more; one that fails has no effect. -/
def declare (record : Record β) (asked : AnnotationDecl β) : Record β :=
  match record.catalog.declare asked with
  | .ok (given, catalog) => ⟨catalog, record.grants ++ [⟨asked, given⟩]⟩
  | .error _ => record

/-- Declarations one after the other. -/
def declareAll (calls : List (AnnotationDecl β)) : Record β := calls.foldl declare empty

/-- Each reference has one declaration, where some references count as the same one. -/
structure Single (within : AnnotationRef → Prop) (alike : AnnotationRef → AnnotationRef → Prop)
    (record : Record β) : Prop where
  /-- Declaring succeeds exactly if what was given before for the reference is of the same kind. -/
  granted : ∀ asked, within asked.reference →
    ((∃ given catalog, record.catalog.declare asked = .ok (given, catalog)) ↔
      ∀ grant ∈ record.grants, alike grant.asked.reference asked.reference →
        grant.asked.kind = asked.kind)
  /-- What is given has the kind that was asked for. -/
  kind : ∀ grant ∈ record.grants, grant.given.kind = grant.asked.kind
  /-- What is given was declared for the reference. -/
  reference : ∀ grant ∈ record.grants, alike grant.given.reference grant.asked.reference
  /-- What is given for one reference is always the same. -/
  shared : ∀ one ∈ record.grants, ∀ other ∈ record.grants,
    alike one.asked.reference other.asked.reference → one.given = other.given
  /-- What is found is what was given for the reference. -/
  find? : ∀ reference declared, within reference →
    (record.catalog.find? reference = some declared ↔
      ∃ grant ∈ record.grants, alike grant.asked.reference reference ∧ grant.given = declared)

/-- The declaration first asked for by a text. -/
def first? (grants : List (Grant β)) (text : String) : Option (AnnotationDecl β) :=
  (grants.find? fun grant => grant.asked.reference.text = text).map Grant.asked

/-- What the catalog holds under each text is what was first asked for by it, and has been given
whenever the text was asked for. -/
structure Kept (record : Record β) : Prop where
  formed : record.catalog.declarations.WellFormed
  found : ∀ text, record.catalog.declarations.find? text = first? record.grants text
  given : ∀ grant ∈ record.grants,
    first? record.grants grant.asked.reference.text = some grant.given ∧
      grant.given.kind = grant.asked.kind

variable {record : Record β}

/-- Something more that is given is first only for a text that nothing was given for. -/
theorem first?_concat (grants : List (Grant β)) (grant : Grant β) (text : String) :
    first? (grants ++ [grant]) text =
      (first? grants text).or
        (if grant.asked.reference.text = text then some grant.asked else none) := by
  -- A search in a longer list goes on with the last call only if it has found nothing.
  unfold first?
  rw [List.find?_append, Option.map_or]
  by_cases same : grant.asked.reference.text = text <;> simp [same]

/-- What is given again for a text leaves the first for every text as it was. -/
theorem first?_concat_of_some {grants : List (Grant β)} {grant : Grant β}
    {existing : AnnotationDecl β}
    (there : first? grants grant.asked.reference.text = some existing) (text : String) :
    first? (grants ++ [grant]) text = first? grants text := by
  -- A call whose text is taken is never the first one of any text.
  rw [first?_concat]
  by_cases same : grant.asked.reference.text = text
  · rw [← same, there, Option.some_or]
  · rw [if_neg same, Option.or_none]

/-- One declaration more is made of the record of those before it. -/
theorem declareAll_concat (calls : List (AnnotationDecl β)) (asked : AnnotationDecl β) :
    declareAll (calls ++ [asked]) = (declareAll calls).declare asked := by
  -- The calls are taken up from the left.
  simp [declareAll]

/-- At first nothing is held, and nothing has been given. -/
theorem kept_empty : (empty : Record β).Kept where
  -- There are no calls, and the catalog is empty.
  formed := NamedArena.wellFormed_empty
  found _ := rfl
  given _ member := by simp [empty] at member

/-- One declaration more is held, or refused, or the one that is held is given again. -/
theorem Kept.declare (kept : record.Kept) (asked : AnnotationDecl β) :
    (record.declare asked).Kept := by
  -- The cases are those of the declaration: the text is taken with this kind, with another, or
  -- free.
  have cases := record.catalog.declared_declare asked
  unfold Record.declare
  generalize record.catalog.declare asked = result at cases
  cases cases with
  | again existing there fits =>
    have first : first? record.grants asked.reference.text = some existing :=
      (kept.found _).symm.trans there
    have unchanged (text : String) :
        first? (record.grants ++ [⟨asked, existing⟩]) text = first? record.grants text :=
      first?_concat_of_some first text
    refine ⟨kept.formed, fun text => (kept.found text).trans (unchanged text).symm, ?_⟩
    intro grant member
    simp only [unchanged]
    rcases List.mem_append.mp member with old | new
    · exact kept.given grant old
    · rw [List.mem_singleton.mp new]
      exact ⟨first, fits⟩
  | conflict existing there differs => exact kept
  | anew absent =>
    -- The first call with a text is the one that the catalog keeps.
    have none : first? record.grants asked.reference.text = none :=
      (kept.found _).symm.trans absent
    have fresh := kept.formed.idOf?_eq_none_iff.mpr absent
    have added := kept.formed.added_add fresh asked
    refine ⟨added.formed, fun text => ?_, ?_⟩
    · rw [kept.formed.find?_add, kept.found, kept.found, none, first?_concat, Option.getD_none]
      by_cases same : text = asked.reference.text
      · simp [same, none]
      · simp [same, Ne.symm same]
    · intro grant member
      rcases List.mem_append.mp member with old | new
      · obtain ⟨first, kind⟩ := kept.given grant old
        rw [first?_concat, first, Option.some_or]
        exact ⟨rfl, kind⟩
      -- The new call is the first one with its text.
      · rw [List.mem_singleton.mp new, first?_concat, none]
        simp

/-- Whatever is declared, what was first asked for by a text is held and given for it. -/
theorem kept_declareAll (calls : List (AnnotationDecl β)) : (declareAll calls).Kept := by
  -- The induction is on the declarations, of which the latest is made of the record before it.
  induction calls using List.reverseRecOn with
  | nil => exact kept_empty
  | append_singleton calls asked ih =>
    rw [declareAll_concat]
    exact ih.declare asked

/-- What was first asked for by a text has been asked for, and by that text. -/
theorem exists_of_first? {grants : List (Grant β)} {text : String} {declared : AnnotationDecl β}
    (first : first? grants text = some declared) :
    ∃ grant ∈ grants, grant.asked = declared ∧ declared.reference.text = text := by
  -- The search gives a call of the list that passes the test.
  obtain ⟨grant, found, rfl⟩ := Option.map_eq_some_iff.mp first
  have tested := List.find?_some found
  exact ⟨grant, List.mem_of_find?_eq_some found, rfl, by simpa using tested⟩

/-- Declaring succeeds exactly if what was given for the text before is of the same kind. -/
theorem Kept.granted_iff (kept : record.Kept) (asked : AnnotationDecl β) :
    (∃ given catalog, record.catalog.declare asked = .ok (given, catalog)) ↔
      ∀ grant ∈ record.grants, grant.asked.reference.text = asked.reference.text →
        grant.asked.kind = asked.kind := by
  have there := kept.found asked.reference.text
  -- Whatever was given for the text is what was first asked for by it.
  have earlier : ∀ grant ∈ record.grants, grant.asked.reference.text = asked.reference.text →
      record.catalog.find? asked.reference = some grant.given := by
    intro grant member same
    rw [Catalog.find?, there, ← same]
    exact (kept.given grant member).1
  have cases := record.catalog.declared_declare asked
  generalize record.catalog.declare asked = result at cases ⊢
  cases cases with
  | again existing found fits =>
    refine ⟨fun _ grant member same => ?_, fun _ => ⟨_, _, rfl⟩⟩
    have given := earlier grant member same
    rw [found] at given
    rw [← (kept.given grant member).2, ← Option.some.inj given, fits]
  | conflict existing found differs =>
    constructor
    · rintro ⟨_, _, same⟩
      contradiction
    · intro agree
      obtain ⟨grant, member, rfl, written⟩ := exists_of_first? (there.symm.trans found)
      exact absurd (agree grant member written) differs
  | anew absent =>
    refine ⟨fun _ grant member same => ?_, fun _ => ⟨_, _, rfl⟩⟩
    have given := earlier grant member same
    rw [absent] at given
    contradiction

/-- Each text has one declaration. -/
theorem Kept.single (kept : record.Kept) :
    record.Single (fun _ => True) fun reference other => reference.text = other.text where
  -- Whatever a call is given is the first declaration of its text.
  granted asked _ := kept.granted_iff asked
  kind grant member := (kept.given grant member).2
  reference grant member := by
    obtain ⟨_, _, _, written⟩ := exists_of_first? (kept.given grant member).1
    exact written
  shared one member other member' same := by
    have given := (kept.given one member).1
    rw [same, (kept.given other member').1] at given
    exact (Option.some.inj given).symm
  find? reference declared _ := by
    unfold Catalog.find?
    rw [kept.found]
    constructor
    · intro first
      obtain ⟨grant, member, rfl, written⟩ := exists_of_first? first
      have given := (kept.given grant member).1
      rw [written, first] at given
      exact ⟨grant, member, written, (Option.some.inj given).symm⟩
    · rintro ⟨grant, member, written, rfl⟩
      rw [← written]
      exact (kept.given grant member).1

/-- One declaration for each reference is one for each reference by any sense of likeness that comes
to the same among the references in question. -/
theorem Single.congr {within : AnnotationRef → Prop}
    {alike alike' : AnnotationRef → AnnotationRef → Prop}
    (single : record.Single (fun _ => True) alike)
    (asked : ∀ grant ∈ record.grants,
      within grant.asked.reference ∧ within grant.given.reference)
    (same : ∀ reference other, within reference → within other →
      (alike reference other ↔ alike' reference other)) : record.Single within alike' where
  -- All references that the record speaks of are such that the two relations agree on them.
  granted call named := by
    rw [single.granted call trivial]
    refine forall₂_congr fun grant member => ?_
    rw [same _ _ (asked grant member).1 named]
  kind := single.kind
  reference grant member :=
    (same _ _ (asked grant member).2 (asked grant member).1).mp (single.reference grant member)
  shared one member other member' like :=
    single.shared one member other member'
      ((same _ _ (asked one member).1 (asked other member').1).mpr like)
  find? reference declared named := by
    rw [single.find? reference declared trivial]
    refine exists_congr fun grant => and_congr_right fun member => ?_
    rw [same _ _ (asked grant member).1 named]

/-- Only what was asked for is given for something. -/
theorem asked_mem_of_mem {calls : List (AnnotationDecl β)} {grant : Grant β}
    (member : grant ∈ (declareAll calls).grants) : grant.asked ∈ calls := by
  -- The induction is on the declarations, of which the latest adds at most itself.
  induction calls using List.reverseRecOn with
  | nil => simp [declareAll, empty] at member
  | append_singleton calls asked ih =>
    rw [declareAll_concat] at member
    unfold Record.declare at member
    split at member
    · rcases List.mem_append.mp member with old | new
      · exact List.mem_append_left _ (ih old)
      · rw [List.mem_singleton.mp new]
        exact List.mem_append_right _ (List.mem_singleton_self asked)
    · exact List.mem_append_left _ (ih member)

/-- Each reference has one declaration, whatever is declared, where references that clash count as
one; and none of those that do not clash shares its declaration with another. -/
theorem single_declareAll (calls : List (AnnotationDecl β)) :
    (declareAll calls).Single (fun _ => True)
        (fun reference other => reference = other ∨ reference.Clash other) ∧
      ∀ within : AnnotationRef → Prop,
        (∀ reference other, within reference → within other → ¬ reference.Clash other) →
        (∀ asked ∈ calls, within asked.reference) → (declareAll calls).Single within Eq := by
  have kept := kept_declareAll calls
  refine ⟨kept.single.congr (fun _ _ => ⟨trivial, trivial⟩) fun reference other _ _ =>
    AnnotationRef.text_eq_iff, fun within apart named => ?_⟩
  refine kept.single.congr (fun grant member => ?_) fun reference other here there => ?_
  · -- What is given was itself asked for.
    obtain ⟨first, member', same, _⟩ := exists_of_first? (kept.given grant member).1
    rw [← same]
    exact ⟨named _ (asked_mem_of_mem member), named _ (asked_mem_of_mem member')⟩
  · rw [AnnotationRef.text_eq_iff]
    exact or_iff_left (apart reference other here there)

/-- References of one group, whose names have no colons, have one declaration each. -/
theorem single_declareAll_demo :
    (declareAll [⟨⟨"demo", "Log"⟩, .method, none⟩, ⟨⟨"demo", "Log"⟩, .classType, none⟩,
        ⟨⟨"", "Log"⟩, .classType, some ()⟩]).Single
      (fun reference => ':' ∉ reference.name.toList) Eq := by
  -- Without a colon in any name there is only one way to spell a reference.
  refine (single_declareAll _).2 _ (fun reference other here there => ?_) (by simp)
  rintro (spells | spells)
  · exact AnnotationRef.not_spells_of_not_mem here spells
  · exact AnnotationRef.not_spells_of_not_mem there spells

/-- A colon in a name without a group is taken for the end of a group. -/
theorem not_single_colon :
    ¬ (declareAll [⟨⟨"", "demo:Log"⟩, .method, (none : Option Unit)⟩,
        ⟨⟨"demo", "Log"⟩, .method, none⟩]).Single (fun _ => True) Eq := by
  -- The second call is given the declaration of the first, which has another group.
  intro single
  have given : (declareAll [⟨⟨"", "demo:Log"⟩, .method, (none : Option Unit)⟩,
      ⟨⟨"demo", "Log"⟩, .method, none⟩]).grants =
      [⟨⟨⟨"", "demo:Log"⟩, .method, none⟩, ⟨⟨"", "demo:Log"⟩, .method, none⟩⟩,
        ⟨⟨⟨"demo", "Log"⟩, .method, none⟩, ⟨⟨"", "demo:Log"⟩, .method, none⟩⟩] := by
    rfl
  have same := single.reference
    ⟨⟨⟨"demo", "Log"⟩, .method, none⟩, ⟨⟨"", "demo:Log"⟩, .method, none⟩⟩ (by rw [given]; simp)
  simp at same

end Record

end Catalog

end AspectWeaving
