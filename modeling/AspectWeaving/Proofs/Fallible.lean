/-! Steps on a state that may fail: what they have changed by then stays changed. -/

namespace AspectWeaving

/-- A step on a state that may fail. -/
abbrev Fallible (ε σ : Type) : Type → Type := ExceptT ε (StateM σ)

namespace Fallible

variable {ε σ α γ : Type} {start finish : σ}

/-- A second step is taken only if the first one has not failed. -/
theorem run_bind_eq {first : Fallible ε σ α} {second : α → Fallible ε σ γ}
    {result : Except ε γ} :
    (first >>= second).run.run start = (result, finish) ↔
      (∃ value between, first.run.run start = (.ok value, between) ∧
        (second value).run.run between = (result, finish)) ∨
      ∃ fault, first.run.run start = (.error fault, finish) ∧ result = .error fault := by
  -- The second step depends on how the first one ended.
  have steps : (first >>= second).run.run start =
      match first.run.run start with
      | (.ok value, between) => (second value).run.run between
      | (.error fault, between) => (.error fault, between) := by
    show ((first.run >>= ExceptT.bindCont second).run start) = _
    rw [StateT.run_bind]
    rcases first.run.run start with ⟨_ | _, _⟩ <;> rfl
  rw [steps]
  -- A failure is passed on with the state that it left.
  rcases first.run.run start with ⟨fault | value, between⟩
  · constructor
    · intro same
      cases same
      exact .inr ⟨fault, rfl, rfl⟩
    · rintro (⟨value, between, same, _⟩ | ⟨fault, same, rfl⟩) <;> cases same
      rfl
  · constructor
    · intro ran
      exact .inl ⟨value, between, rfl, ran⟩
    · rintro (⟨value, between, same, ran⟩ | ⟨fault, same, _⟩) <;> cases same
      exact ran

/-- A result alone changes nothing. -/
theorem run_pure_eq {value : α} {result : Except ε α} :
    (pure value : Fallible ε σ α).run.run start = (result, finish) ↔
      result = .ok value ∧ finish = start := by
  -- A result alone is given at once, and the state stays.
  show (Except.ok value, start) = (result, finish) ↔ _
  simp [eq_comm]

/-- Going through a list does not fail if going through its first item and its rest does not. -/
theorem mapM_cons_eq_ok {make : α → Except ε γ} {item : α} {rest : List α} {made : List γ} :
    (item :: rest).mapM make = .ok made ↔
      ∃ head tail, make item = .ok head ∧ rest.mapM make = .ok tail ∧ made = head :: tail := by
  -- All goes well if both the first item and the rest go well.
  rw [List.mapM_cons]
  cases first : make item with
  | error fault => simp [Bind.bind, Except.bind]
  | ok head =>
    cases others : rest.mapM make with
    | error fault => simp [Bind.bind, Except.bind]
    | ok tail => simp [Bind.bind, Except.bind, Pure.pure, Except.pure, eq_comm]

/-- What going through a list without failing has made, it has made of the items. -/
theorem exists_of_mem_mapM {make : α → Except ε γ} {items : List α} {made : List γ}
    (ran : items.mapM make = .ok made) {result : γ} (member : result ∈ made) :
    ∃ item ∈ items, make item = .ok result := by
  -- The induction is on the items: each result is that of one of them.
  induction items generalizing made with
  | nil =>
    rw [List.mapM_nil] at ran
    cases ran
    simp at member
  | cons item rest ih =>
    obtain ⟨head, tail, first, others, rfl⟩ := mapM_cons_eq_ok.mp ran
    rcases List.mem_cons.mp member with same | later
    · exact ⟨item, List.mem_cons_self, same ▸ first⟩
    · obtain ⟨source, listed, found⟩ := ih others later
      exact ⟨source, List.mem_cons_of_mem item listed, found⟩

/-- Going through what was made of a list gives the list back if each item is given back. -/
theorem mapM_map_eq_ok {make : γ → Except ε α} {source : α → γ} {items : List α}
    (back : ∀ item ∈ items, make (source item) = .ok item) :
    (items.map source).mapM make = .ok items := by
  -- The induction is on the items, each of which is made back into itself.
  induction items with
  | nil => rfl
  | cons item rest ih =>
    have first := back item List.mem_cons_self
    have others := ih fun later member => back later (List.mem_cons_of_mem item member)
    rw [List.map_cons, List.mapM_cons, first, others]
    rfl

end Fallible

end AspectWeaving
