import AspectWeaving.Proofs.Engine.Recording

/-! Recorded runs step by step: what a run gives, and which notes it takes on the way. -/

namespace AspectWeaving

variable {β τ : Type}

namespace Noted

variable {ν α γ : Type}

/-- A run gives a result and notes, and turns an invocation and a state into others. -/
def Gives (noted : Noted ν β τ α) (before : Invocation β × State β τ) (result : α)
    (notes : List ν) (after : Invocation β × State β τ) : Prop :=
  (noted.run.run before.1).run before.2 = some (((result, notes), after.1), after.2)

variable {before after : Invocation β × State β τ} {notes : List ν}

/-- A run that ends takes some notes. -/
theorem exists_gives {noted : Noted ν β τ α} {result : α} {invocation : Invocation β}
    {state : State β τ}
    (ran : (noted.erase.run before.1).run before.2 = some ((result, invocation), state)) :
    ∃ notes, noted.Gives before result notes (invocation, state) := by
  -- What is left out can be put back.
  unfold erase at ran
  simp only [StateT.run_map, Option.map_eq_map, Option.map_eq_some_iff, Prod.mk.injEq,
    Prod.exists] at ran
  obtain ⟨_, notes, _, _, gives, ⟨rfl, rfl⟩, rfl⟩ := ran
  exact ⟨notes, gives⟩

/-- A run that takes notes ends as it does without them. -/
theorem Gives.run_erase {noted : Noted ν β τ α} {result : α}
    (gives : noted.Gives before result notes after) :
    (noted.erase.run before.1).run before.2 = some ((result, after.1), after.2) := by
  -- Leaving notes out does not touch the rest.
  unfold Gives at gives
  simp [erase, StateT.run_map, gives]

/-- A result alone has no notes and changes nothing. -/
@[simp]
theorem gives_pure {result given : α} :
    (pure result : Noted ν β τ α).Gives before given notes after ↔
      given = result ∧ notes = [] ∧ after = before := by
  -- The notes of a result alone are the empty list.
  show some (((result, []), before.1), before.2) = some (((given, notes), after.1), after.2) ↔ _
  simp only [Option.some.injEq, Prod.ext_iff, eq_comm, and_assoc]

/-- The notes of two runs one after the other are those of both. -/
theorem gives_bind {first : Noted ν β τ α} {second : α → Noted ν β τ γ} {given : γ} :
    (first >>= second).Gives before given notes after ↔
      ∃ result early between late, first.Gives before result early between ∧
        (second result).Gives between given late after ∧ notes = early ++ late := by
  unfold Gives
  show ((first.run >>= fun (result, early) => (fun (last, late) => (last, early ++ late)) <$>
    (second result).run).run before.1).run before.2 = _ ↔ _
  -- The run ends exactly if both runs end, the second from where the first one left.
  constructor
  · intro gives
    simp only [StateT.run_bind, StateT.run_map, Option.bind_eq_bind, Option.bind_eq_some_iff,
      Option.map_eq_map, Option.map_eq_some_iff, Prod.mk.injEq, Prod.exists] at gives
    obtain ⟨result, early, invocation, state, ran, last, late, _, _, more, ⟨⟨rfl, rfl⟩, rfl⟩,
      rfl⟩ := gives
    exact ⟨result, early, (invocation, state), late, ran, more, rfl⟩
  · rintro ⟨result, early, between, late, ran, more, rfl⟩
    simp [StateT.run_bind, StateT.run_map, ran, more]

/-- A run without notes gives what it gives. -/
theorem gives_liftM {plain : LayerRun β τ α} {given : α} :
    (liftM plain : Noted ν β τ α).Gives before given notes after ↔
      notes = [] ∧ (plain.run before.1).run before.2 = some ((given, after.1), after.2) := by
  unfold Gives
  show (((fun result => (result, ([] : List ν))) <$> plain).run before.1).run before.2 = _ ↔ _
  -- A lifted run takes no notes, so that only the result and the state are left to compare.
  simp [StateT.run_map, Option.map_eq_some_iff]
  grind

/-- A run that leaves the invocation alone gives what it gives. -/
theorem gives_lift {run : Run β τ α} {given : α} :
    (liftM (StateT.lift run : LayerRun β τ α) : Noted ν β τ α).Gives before given notes after ↔
      notes = [] ∧ run.run before.2 = some (given, after.2) ∧ after.1 = before.1 := by
  rw [gives_liftM, StateT.run_lift, StateT.run_bind, Option.bind_eq_bind,
    Option.bind_eq_some_iff]
  refine and_congr_right fun _ => ?_
  -- The invocation is only put beside the result.
  constructor
  · rintro ⟨⟨result, state⟩, ran, same⟩
    obtain ⟨invocation, finish⟩ := after
    cases same
    exact ⟨ran, rfl⟩
  · rintro ⟨ran, same⟩
    refine ⟨(given, after.2), ran, ?_⟩
    rw [same]
    rfl

/-- What follows a run without notes takes all of the notes. -/
theorem gives_liftM_bind {plain : LayerRun β τ α} {second : α → Noted ν β τ γ} {given : γ} :
    ((liftM plain : Noted ν β τ α) >>= second).Gives before given notes after ↔
      ∃ result between, (plain.run before.1).run before.2 =
          some ((result, between.1), between.2) ∧
        (second result).Gives between given notes after := by
  -- What is lifted adds no notes of its own.
  rw [gives_bind]
  constructor
  · rintro ⟨result, _, between, late, lifted, gives, rfl⟩
    obtain ⟨rfl, ran⟩ := gives_liftM.mp lifted
    exact ⟨result, between, ran, gives⟩
  · rintro ⟨result, between, ran, gives⟩
    exact ⟨result, [], between, notes, gives_liftM.mpr ⟨rfl, ran⟩, gives, rfl⟩

/-- Taking a note takes that note and changes nothing. -/
theorem gives_tell {told : List ν} {given : PUnit} :
    (tell told : Noted ν β τ PUnit).Gives before given notes after ↔
      notes = told ∧ after = before := by
  -- Both sides say that the notes are the ones told, and that nothing else happens.
  show some (((PUnit.unit, told), before.1), before.2) =
    some (((given, notes), after.1), after.2) ↔ _
  simp only [Option.some.injEq, Prod.ext_iff, eq_comm, true_and, and_assoc]

/-- What follows a note takes the notes behind it. -/
theorem gives_tell_bind {told : List ν} {second : Noted ν β τ α} {given : α} :
    ((tell told : Noted ν β τ PUnit) >>= fun _ => second).Gives before given notes after ↔
      ∃ rest, second.Gives before given rest after ∧ notes = told ++ rest := by
  -- The notes told come in front of those of the rest.
  rw [gives_bind]
  constructor
  · rintro ⟨_, _, _, late, taken, gives, rfl⟩
    obtain ⟨rfl, rfl⟩ := gives_tell.mp taken
    exact ⟨late, gives, rfl⟩
  · rintro ⟨rest, gives, rfl⟩
    exact ⟨.unit, told, before, rest, gives_tell.mpr ⟨rfl, rfl⟩, gives, rfl⟩

/-- Looking at the invocation hands it on. -/
theorem gives_get_bind {second : Invocation β → Noted ν β τ α} {given : α} :
    ((liftM (MonadState.get : LayerRun β τ (Invocation β)) : Noted ν β τ _) >>= second).Gives
        before given notes after ↔
      (second before.1).Gives before given notes after := by
  -- What is looked at is the invocation at the start.
  rw [gives_liftM_bind]
  refine ⟨fun ⟨_, ⟨_, _⟩, looked, gives⟩ => ?_, fun gives => ⟨before.1, before, rfl, gives⟩⟩
  cases looked
  exact gives

/-- What follows a change of the invocation starts with the changed one. -/
theorem gives_modify_bind {change : Invocation β → Invocation β} {second : Noted ν β τ α}
    {given : α} :
    ((liftM (modify change : LayerRun β τ PUnit) : Noted ν β τ _) >>= fun _ => second).Gives
        before given notes after ↔
      second.Gives (change before.1, before.2) given notes after := by
  -- The rest starts from the changed invocation.
  rw [gives_liftM_bind]
  refine ⟨fun ⟨_, ⟨_, _⟩, changed, gives⟩ => ?_, fun gives => ⟨_, (_, _), rfl, gives⟩⟩
  cases changed
  exact gives

end Noted

end AspectWeaving
