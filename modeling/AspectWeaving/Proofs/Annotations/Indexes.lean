import AspectWeaving.Proofs.Annotations.Visibility

/-! The two indexes of decorations, by class and location and by annotation: each holds every
registered decoration once and nothing else, and gives those of one key in their order. -/

namespace AspectWeaving

namespace Decorations

variable {β : Type} {history : List (Decoration β)}

/-- The decorations with one annotation. -/
def under (decorations : Decorations β) (reference : AnnotationRef) : List (Decoration β) :=
  (decorations.byReference.get? reference).getD []

/-- Registering puts a decoration behind the earlier ones with its annotation. -/
theorem under_register (decorations : Decorations β) (decoration : Decoration β)
    (reference : AnnotationRef) : (decorations.register decoration).under reference =
      decorations.under reference ++ [decoration].filter fun added =>
        added.reference = reference := by
  -- Only the list under the reference of the new decoration grows.
  simp only [under, register, Dictionary.get?_update]
  by_cases same : reference = decoration.reference
  · simp [same]
  · simp [same, Ne.symm same]

/-- Registering one decoration more is registering it last. -/
theorem ofHistory_concat (earlier : List (Decoration β)) (last : Decoration β) :
    ofHistory (earlier ++ [last]) = (ofHistory earlier).register last := by
  -- A history is taken up from the left.
  simp [ofHistory]

/-- With an annotation are the decorations registered with it, in their order. -/
theorem under_ofHistory (reference : AnnotationRef) : (ofHistory history).under reference =
    history.filter fun decoration => decoration.reference = reference := by
  -- The induction is on the last decoration registered.
  induction history using List.reverseRecOn with
  | nil => rfl
  | append_singleton earlier last ih =>
    rw [ofHistory_concat, under_register, ih, List.filter_append]

/-- All decorations that are kept by annotation. -/
def allByReference (decorations : Decorations β) : List (Decoration β) :=
  decorations.byReference.values.flatten

/-- All decorations that are kept by class and location. -/
def allByClass (decorations : Decorations β) : List (Decoration β) :=
  decorations.byClass.values.flatMap fun layer => layer.values.flatten

/-- Registering adds one decoration to those kept by annotation. -/
theorem allByReference_register (decorations : Decorations β) (decoration : Decoration β) :
    (decorations.register decoration).allByReference.Perm
      (decorations.allByReference ++ [decoration]) :=
  -- The new decoration goes to the end of one list, and all lists are put together.
  Dictionary.flatten_values_update decorations.byReference decoration.reference decoration

/-- Registering adds one decoration to those kept by class and location. -/
theorem allByClass_register (decorations : Decorations β) (decoration : Decoration β) :
    (decorations.register decoration).allByClass.Perm
      (decorations.allByClass ++ [decoration]) := by
  refine Dictionary.flatMap_values_update ?_
  -- The layer of the class grows by the decoration, whether or not the class had one.
  have grows := Dictionary.flatten_values_update
    (decorations.layer decoration.target.owner.id) decoration.target.location decoration
  cases known : decorations.byClass.get? decoration.target.owner.id with
  | none =>
    have first : decorations.layer decoration.target.owner.id = Dictionary.empty := by
      rw [layer, known]
      rfl
    rw [first] at grows
    exact grows
  | some held => simpa [layer, known] using grows

/-- Both indexes keep every registered decoration once, and nothing else. -/
theorem perm_ofHistory (history : List (Decoration β)) :
    (ofHistory history).allByReference.Perm history ∧
      (ofHistory history).allByClass.Perm history := by
  -- The induction is on the last decoration registered.
  induction history using List.reverseRecOn with
  | nil => exact ⟨.nil, .nil⟩
  | append_singleton earlier last ih =>
    rw [ofHistory_concat]
    exact ⟨(allByReference_register _ last).trans (ih.1.append_right [last]),
      (allByClass_register _ last).trans (ih.2.append_right [last])⟩

/-- What the two indexes tell of a history of registrations, with the classes as they are now. -/
structure Indexes (decorations : Decorations β) (history : List (Decoration β))
    (classes : ClassTable β) : Prop where
  -- Reference by reference, in the order in which they are asked for.
  find : ∀ references, decorations.find references = references.flatMap fun reference =>
    history.filter fun decoration => decoration.reference = reference
  once : ∀ references : List AnnotationRef, references.Nodup →
    (decorations.find references).Perm
      (history.filter fun decoration => decoration.reference ∈ references)
  own : ∀ id descriptor, classes.get? id = some descriptor → ∀ location, location.owner = id →
    (Bundle.ofClass decorations classes id).allAt location false = registeredAt history location
  -- A class that is gone has no bundle, but what it was decorated with is still kept.
  kept : ∀ location, decorations.keptAt location.owner location = registeredAt history location
  byReference : decorations.allByReference.Perm history
  byClass : decorations.allByClass.Perm history

/-- Asking for several annotations gives what is there under each of them. -/
theorem find_ofHistory (references : List AnnotationRef) : (ofHistory history).find references =
    references.flatMap fun reference =>
      history.filter fun decoration => decoration.reference = reference :=
  -- Under each reference there are the decorations of the history that have it, in order.
  List.flatMap_congr fun reference _ => under_ofHistory reference

/-- Asking for different annotations gives no decoration twice. -/
theorem find_perm {references : List AnnotationRef} (nodup : references.Nodup) :
    ((ofHistory history).find references).Perm
      (history.filter fun decoration => decoration.reference ∈ references) := by
  refine perm_of_filter_key_eq Decoration.reference fun reference => ?_
  rw [find_ofHistory, List.filter_flatMap, List.filter_filter]
  -- Of the annotations that are asked for, at most one is this one.
  have one (asked : AnnotationRef) :
      (history.filter fun decoration => decoration.reference = asked).filter
        (fun decoration => decoration.reference = reference) =
      if asked = reference then
        history.filter fun decoration => decoration.reference = reference
      else [] := by
    rw [List.filter_filter]
    split
    · next same => simp [same]
    · next other =>
      refine List.filter_eq_nil_iff.mpr fun decoration _ both => other ?_
      simp only [Bool.and_eq_true, decide_eq_true_eq] at both
      exact both.2.symm.trans both.1
  -- What is left is whether this annotation is asked for at all.
  simp only [one]
  rw [flatMap_ite_eq nodup]
  split
  · next asked =>
    refine List.filter_congr fun decoration _ => ?_
    by_cases same : decoration.reference = reference <;> simp [same, asked]
  · next absent =>
    refine (List.filter_eq_nil_iff.mpr fun decoration _ both => absent ?_).symm
    simp only [Bool.and_eq_true, decide_eq_true_eq] at both
    exact both.1 ▸ both.2

/-- Whatever was registered on targets that have been resolved, the two indexes agree on it. -/
theorem indexes_of_placed (placed : ∀ decoration ∈ history, decoration.Placed)
    (classes : ClassTable β) : (ofHistory history).Indexes history classes where
  find := find_ofHistory
  once _ nodup := find_perm nodup
  own id descriptor live location on := by
    -- Without inherited ones a bundle goes through one class, which is the class itself.
    show (Bundle.ofLineage (.ofHistory history) (classes.lineage id)).allAt location false = _
    rw [Bundle.allAt_false, Bundle.allAt_eq placed, upTo_take_one, ClassTable.map_fst_lineage,
      ClassTable.take_one_ancestry live]
    simp [← on]
  kept location := keptAt_eq placed rfl
  byReference := (perm_ofHistory history).1
  byClass := (perm_ofHistory history).2

/-- Two methods that are decorated in turn, one of them twice with the same: by annotation the
decorations of both are found, and by location those of one. -/
theorem indexes_of_placed_interleaved :
    let run := Dictionary.ofList [("run", none)]
    let calls := [ReflectionCall.registerClass { ClassTable.named "A" with methods := run },
      .registerClass { ClassTable.named "B" with methods := run }]
    let classes := (calls.foldl Reflection.perform .empty).classes
    let method (id : ClassId) (name : String) : Target :=
      let whole := Target.root ⟨id, name, name⟩ (.ofClass id)
      .method ⟨id, name, name⟩ (.ofMethod id "run") "run" whole whole
    let mark (name : String) (target : Target) : Decoration Unit :=
      ⟨⟨⟨"t", name⟩, .method, none⟩, target, []⟩
    let first := method ⟨0⟩ "A"
    let second := method ⟨1⟩ "B"
    let history := [mark "X" first, mark "Y" second, mark "X" second, mark "X" first]
    (∀ decoration ∈ history, decoration.Placed) ∧
      (ofHistory history).find [⟨"t", "Y"⟩, ⟨"t", "X"⟩] =
        [mark "Y" second, mark "X" first, mark "X" second, mark "X" first] ∧
      (Bundle.ofClass (ofHistory history) classes ⟨0⟩).allAt (.ofMethod ⟨0⟩ "run") false =
        [mark "X" first, mark "X" first] ∧
      (ofHistory history).Indexes history classes := by
  intro run calls classes method mark first second history
  have placed : ∀ decoration ∈ history, decoration.Placed := by
    have one : (mark "X" first).Placed := ⟨calls, .ofMember ⟨0⟩ "run", by decide +kernel⟩
    have two : (mark "X" second).Placed := ⟨calls, .ofMember ⟨1⟩ "run", by decide +kernel⟩
    -- Whether a decoration is placed depends on its target only.
    have other : (mark "Y" second).Placed := two
    simp only [history, List.forall_mem_cons]
    exact ⟨one, other, two, one, by simp⟩
  exact ⟨placed, rfl, rfl, indexes_of_placed placed classes⟩

end Decorations

end AspectWeaving
