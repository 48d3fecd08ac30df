import AspectWeaving.Proofs.Aspect.Roster
import AspectWeaving.Proofs.Pointcut.Glob
import AspectWeaving.Proofs.Precedence

/-! A plan built from the index has the advices that going through all enabled ones would give. -/

namespace AspectWeaving

variable {β τ α : Type}

/-- An expression asks for no annotation, or for one of those that are there. -/
def Pointcut.Expression.Meets (expression : Pointcut.Expression)
    (references : List AnnotationRef) : Prop :=
  expression.annotations = [] ∨ ∃ reference ∈ references, reference ∈ expression.annotations

/-- Whether an expression covers a use of an element, by the sort of element that it is for, the
element's own annotations and those on its parameters. -/
def Pointcut.Expression.Covers (expression : Pointcut.Expression) (joinpoint : Joinpoint)
    (own parameters : List AnnotationRef) : Prop :=
  match expression.scope with
  | .classType => joinpoint = .construction ∧ expression.Meets own
  | .method => joinpoint = .call ∧ expression.Meets own
  | .getProperty => joinpoint = .get ∧ expression.Meets own
  | .setProperty => joinpoint = .set ∧ expression.Meets own
  | .parameter => joinpoint = .call ∧ parameters ≠ [] ∧ expression.Meets parameters
  -- Only a call looks at what the parameters bear.
  | .any => expression.Meets (if joinpoint = .call then own ++ parameters else own)

/-- The rule by which an expression selects a use of an element: its pattern matches the element's
name, and it covers the use with the annotations that are visible on the element and on the
parameters of that name's method. -/
def Pointcut.Expression.Selects (expression : Pointcut.Expression) (reflection : Reflection β)
    (target : Target) (joinpoint : Joinpoint) : Prop :=
  let bundle := reflection.bundle target.owner.id
  let own := bundle.allAt target.location true
  let ofParameters := bundle.all.filter fun decoration =>
    decoration.target.kind = .parameter ∧ decoration.target.name = target.name
  Glob.Matches expression.name.toList target.name.toList ∧
    expression.Covers joinpoint (own.map Decoration.reference)
      (ofParameters.map Decoration.reference)

/-- An expression selects by pattern, scope and annotations. -/
theorem Pointcut.Expression.selects_iff {expression : Pointcut.Expression}
    {element : Pointcut.Scope} {name : String} {references : List AnnotationRef} :
    expression.selects element name references = true ↔
      Glob.Matches expression.name.toList name.toList ∧
        (expression.scope = .any ∨ expression.scope = element) ∧ expression.Meets references := by
  -- The three are tested one after the other, the scope first.
  simp only [selects, Scope.accepts, Meets, Bool.and_eq_true, Bool.or_eq_true, beq_iff_eq,
    Glob.accepts_iff, List.isEmpty_iff, List.any_eq_true, List.contains_iff_mem, and_assoc,
    and_left_comm]

/-- Some of the annotations that meet an expression do so together with any others. -/
theorem Pointcut.Expression.Meets.mono {expression : Pointcut.Expression}
    {part whole : List AnnotationRef} (meets : expression.Meets part) (within : part ⊆ whole) :
    expression.Meets whole := by
  -- The annotation that is asked for is among the others as well.
  rcases meets with free | ⟨reference, shown, asked⟩
  · exact .inl free
  · exact .inr ⟨reference, within shown, asked⟩

namespace Pointcut.Expression.Covers

variable {expression : Pointcut.Expression} {joinpoint : Joinpoint}
  {own parameters : List AnnotationRef}

/-- What covers a use is looked for: its scope is one of the joinpoint's, or any. -/
theorem mem_scopes (covers : expression.Covers joinpoint own parameters) :
    expression.scope ∈ joinpoint.scopes ++ [Pointcut.Scope.any] := by
  unfold Pointcut.Expression.Covers at covers
  -- Each scope but the last is for one joinpoint only.
  cases scope : expression.scope <;> rw [scope] at covers
  case any => exact List.mem_append_right _ (.head _)
  all_goals
    rw [covers.1]
    decide

/-- What covers a use asks for no annotation, or for one that is visible there. -/
theorem meets (covers : expression.Covers joinpoint own parameters) :
    expression.Meets (if joinpoint = .call then own ++ parameters else own) := by
  unfold Pointcut.Expression.Covers at covers
  -- Whatever the scope looks at is a part of what is visible.
  have whole : own ⊆ if joinpoint = .call then own ++ parameters else own := by
    split
    · exact List.subset_append_left _ _
    · exact List.Subset.refl _
  cases scope : expression.scope <;> rw [scope] at covers
  case any => exact covers
  case parameter =>
    rw [if_pos covers.1]
    exact covers.2.2.mono (List.subset_append_right _ _)
  all_goals exact covers.2.mono whole

end Pointcut.Expression.Covers

namespace Surroundings

variable {reflection : Reflection β} {target : Target} {joinpoint : Joinpoint}
  {expression : Pointcut.Expression}

/-- A call shows the annotations that are visible on the parameters of its name's method, and no
other use shows any. -/
theorem parameterReferences_ofTarget (reflection : Reflection β) (target : Target)
    (joinpoint : Joinpoint) :
    (ofTarget reflection target joinpoint).parameterReferences =
      if joinpoint = .call then
        ((reflection.bundle target.owner.id).all.filter fun decoration =>
          decoration.target.kind = .parameter ∧ decoration.target.name = target.name).map
            Decoration.reference
      else [] := by
  cases joinpoint
  case call =>
    simp only [parameterReferences, ofTarget, Bundle.ofKind, List.filter_filter, if_true]
    -- No annotation is asked for, so that only the kind and the name are looked at.
    refine congrArg _ (List.filter_congr fun decoration _ => ?_)
    simp [Bool.and_comm, beq_eq_decide]
  all_goals rfl

/-- The selection follows the rule. -/
theorem selectedBy_ofTarget_iff :
    (ofTarget reflection target joinpoint).selectedBy joinpoint expression = true ↔
      expression.Selects reflection target joinpoint := by
  simp only [selectedBy, references, parameterReferences_ofTarget, Pointcut.Expression.Selects]
  generalize List.map Decoration.reference (List.filter _ _) = parameters
  unfold Pointcut.Expression.Covers
  -- The cases are the scopes and the joinpoints, each of which has one scope of its own.
  cases scope : expression.scope <;> cases joinpoint <;>
    simp [Pointcut.Expression.selects_iff, scope, Joinpoint.scope, ofTarget, elementReferences,
      and_left_comm]

/-- What is selected asks for no annotation, or for one that is shown. -/
theorem meets_of_selects (selected : expression.Selects reflection target joinpoint) :
    expression.Meets (ofTarget reflection target joinpoint).references := by
  -- All that covers a use of the element is shown there.
  have meets := selected.2.meets
  rw [references, parameterReferences_ofTarget]
  split at meets
  · next call => rwa [if_pos call]
  · next other => rwa [if_neg other, List.append_nil]

end Surroundings

/-- No advice of a plan comes before one that is ahead of it by precedence. -/
theorem Plan.sorted_build (reflection : Reflection β) (index : AdviceIndex β) (target : Target)
    (joinpoint : Joinpoint) :
    (Plan.build reflection index target joinpoint).advices.Pairwise fun x y =>
      x.precedence.le y.precedence = true := by
  -- Sorting needs an order that is total and transitive.
  unfold Plan.build
  apply List.pairwise_mergeSort
  · intro x y z first second
    exact Precedence.le_trans first second
  · intro x y
    exact Precedence.le_total x.precedence y.precedence

namespace Roster

variable {registry : AspectRegistry} {index : AdviceIndex β} (roster : Roster registry index)
include roster

/-- Advices that are listed somewhere are told apart by their places. -/
theorem precedence_inj {x y : Advice β} (first : ∃ key, x ∈ index.under key)
    (second : ∃ key, y ∈ index.under key) (same : x.precedence = y.precedence) : x = y := by
  obtain ⟨_, first⟩ := first
  obtain ⟨_, second⟩ := second
  -- The numbers of the advices are part of their places.
  exact roster.apart (roster.listed.mp first).2 (roster.listed.mp second).2 (by rw [same])

/-- The candidates are the listed advices of the phase with a scope and an annotation asked for. -/
theorem mem_candidates {phase : Phase} {scopes : List Pointcut.Scope}
    {references : List AnnotationRef} {advice : Advice β} :
    advice ∈ index.candidates phase scopes references ↔
      (∃ id, advice ∈ index.ofAspect id) ∧ advice.phase = phase ∧
        advice.pointcut.expression.scope ∈ scopes ++ [Pointcut.Scope.any] ∧
        advice.pointcut.expression.Meets references := by
  unfold AdviceIndex.candidates
  rw [mem_distinctBy]
  · simp only [List.mem_flatMap]
    -- A candidate is found under a key, and each listed advice under all of its own.
    constructor
    · rintro ⟨scope, looked, required, shown, listed⟩
      obtain ⟨keyed, owned⟩ := roster.listed.mp listed
      obtain ⟨rfl, rfl, asked⟩ := Advice.mem_keys.mp keyed
      refine ⟨⟨_, owned⟩, rfl, looked, ?_⟩
      cases required with
      | none => exact .inl asked
      | some reference => exact .inr ⟨reference, by simpa using shown, asked⟩
    · rintro ⟨⟨id, owned⟩, rfl, looked, meets⟩
      have own : advice ∈ index.ofAspect advice.aspectId := by rwa [roster.owned owned]
      rcases meets with free | ⟨reference, shown, asked⟩
      · exact ⟨_, looked, none, by simp, roster.listed.mpr
          ⟨Advice.mem_keys.mpr ⟨rfl, rfl, free⟩, own⟩⟩
      · exact ⟨_, looked, some reference, by simpa using shown, roster.listed.mpr
          ⟨Advice.mem_keys.mpr ⟨rfl, rfl, asked⟩, own⟩⟩
  · -- Dropping repetitions loses nothing as places tell listed advices apart.
    intro x first y second same
    simp only [List.mem_flatMap] at first second
    obtain ⟨_, _, _, _, first⟩ := first
    obtain ⟨_, _, _, _, second⟩ := second
    exact roster.precedence_inj ⟨_, first⟩ ⟨_, second⟩ same

/-- No two advices of a plan are one. -/
theorem nodup_build (reflection : Reflection β) (target : Target) (joinpoint : Joinpoint) :
    (Plan.build reflection index target joinpoint).advices.Nodup := by
  refine (List.mergeSort_perm _ _).nodup_iff.mpr (List.Nodup.filter _ ?_)
  -- Candidates of different phases differ in their phases.
  rw [List.nodup_flatMap]
  refine ⟨fun phase _ => (nodup_distinctBy Advice.precedence _).of_map, ?_⟩
  refine List.Pairwise.imp ?_ (show Phase.all.Nodup by decide)
  intro phase other different advice first second
  exact different ((roster.mem_candidates.mp first).2.1.symm.trans
    (roster.mem_candidates.mp second).2.1)

/-- A plan has the listed advices that the joinpoint is selected by. -/
theorem mem_build {reflection : Reflection β} {target : Target} {joinpoint : Joinpoint}
    {advice : Advice β} :
    advice ∈ (Plan.build reflection index target joinpoint).advices ↔
      (∃ id, advice ∈ index.ofAspect id) ∧
        advice.pointcut.expression.Selects reflection target joinpoint := by
  simp only [Plan.build, List.mem_mergeSort, List.mem_filter, List.mem_flatMap,
    roster.mem_candidates, Surroundings.selectedBy_ofTarget_iff]
  constructor
  · rintro ⟨⟨_, _, listed, _⟩, selected⟩
    exact ⟨listed, selected⟩
  · rintro ⟨listed, selected⟩
    -- Each phase is gone through.
    have all : advice.phase ∈ Phase.all := by cases advice.phase <;> decide
    have meets := Surroundings.meets_of_selects selected
    exact ⟨⟨_, all, listed, rfl, selected.2.mem_scopes, meets⟩, selected⟩

/-- The advices of a plan stand in strictly ascending order. -/
theorem pairwise_build (reflection : Reflection β) (target : Target) (joinpoint : Joinpoint) :
    (Plan.build reflection index target joinpoint).advices.Pairwise fun x y =>
      x.precedence.before y.precedence = true := by
  -- Different advices have different places, so that none stands beside an equal one.
  have apart : (Plan.build reflection index target joinpoint).advices.Pairwise fun x y =>
      x.precedence ≠ y.precedence := by
    refine List.Pairwise.imp_of_mem ?_ (roster.nodup_build reflection target joinpoint)
    intro x y first second different same
    obtain ⟨_, first⟩ := (roster.mem_build.mp first).1
    obtain ⟨_, second⟩ := (roster.mem_build.mp second).1
    exact different (roster.apart first second (by rw [same]))
  have sorted := (Plan.sorted_build reflection index target joinpoint).and apart
  exact sorted.imp fun ⟨notBehind, different⟩ =>
    Precedence.before_of_le notBehind different

end Roster

/-- In every state of a weaver, whatever the element and the use of it, each phase of a plan has
exactly those advices of the enabled aspects whose pointcuts select it, in strictly ascending
order. -/
theorem ofPhase_build_eq_scan {weaver : Weaver β} {enabled : Dictionary String (List (Advice β))}
    (reached : weaver.Reached enabled) (target : Target) (joinpoint : Joinpoint) (phase : Phase) :
    let plan := Plan.build weaver.reflection weaver.advices target joinpoint
    ((plan.ofPhase phase).Pairwise fun x y => x.precedence.before y.precedence = true) ∧
      ∀ advice, advice ∈ plan.ofPhase phase ↔
        (∃ id advices, enabled.get? id = some advices ∧ advice ∈ advices) ∧
          advice.phase = phase ∧
          advice.pointcut.expression.Selects weaver.reflection target joinpoint := by
  -- The index agrees with the enabled aspects in every state that is reached.
  refine ⟨(reached.roster.pairwise_build _ target joinpoint).filter _, fun advice => ?_⟩
  rw [Plan.ofPhase, List.mem_filter, reached.roster.mem_build, reached.exists_mem_ofAspect,
    beq_iff_eq, and_right_comm, and_assoc]

/-- Whether an element is selected is decided as plans decide it. -/
instance (expression : Pointcut.Expression) (reflection : Reflection β) (target : Target)
    (joinpoint : Joinpoint) : Decidable (expression.Selects reflection target joinpoint) :=
  decidable_of_iff _ Surroundings.selectedBy_ofTarget_iff

/-- An aspect that asks for annotations on methods and on parameters, and for neither. -/
def watcher : AspectDeclaration Unit where
  typeName := "Watcher"
  objectId := 0
  options := some ⟨none, none⟩
  advices := [
    ⟨"logged", .before, "@demo:Log method gr*", none, ()⟩,
    ⟨"misplaced", .before, "@demo:Named method *", none, ()⟩,
    ⟨"named", .before, "@demo:Named parameter greet", none, ()⟩,
    ⟨"strayed", .before, "@demo:Wide any *", none, ()⟩,
    ⟨"either", .before, "@demo:Log|@demo:Named any *", none, ()⟩,
    ⟨"making", .before, "class *", none, ()⟩]

/-- Puts an annotation on an element that there is. -/
def Reflection.mark (reflection : Reflection Unit) (name : String) (element : Element) :
    Reflection Unit :=
  match reflection.resolve element with
  | (.error _, reflection) => reflection
  | (.ok target, reflection) => reflection.record ⟨⟨⟨"demo", name⟩, target.kind, none⟩, target, []⟩

/-- A class with two methods, and a subclass of it that declares none; the first method and a
parameter of each are annotated. -/
def greetings : Reflection Unit :=
  let methods := Dictionary.ofList [("greet", some ()), ("part", some ())]
  let reflection := (Reflection.empty.registerClass
    ⟨"Greeter", none, none, methods, .empty⟩).2
  let reflection := (reflection.registerClass ⟨"Polite", some ⟨0⟩, none, .empty, .empty⟩).2
  let reflection := reflection.mark "Log" (.ofMember ⟨0⟩ "greet")
  let reflection := reflection.mark "Named" (.ofParameter ⟨0⟩ "greet" 0)
  reflection.mark "Wide" (.ofParameter ⟨0⟩ "part" 1)

/-- A call of an inherited method is selected by the annotations on the method and on its own
parameter, as far as the advices ask for them there. -/
theorem ofPhase_build_watcher :
    let weaver := { ((Weaver.ofConfig .standard).enable watcher).2 with reflection := greetings }
    let top := Target.root ⟨⟨0⟩, "Greeter", "Greeter"⟩ (.ofClass ⟨0⟩)
    let whole := Target.subclass ⟨⟨1⟩, "Polite", "Polite"⟩ (.ofClass ⟨1⟩) top
    let target := Target.method ⟨⟨1⟩, "Polite", "Polite"⟩ (.ofMethod ⟨1⟩ "greet") "greet" whole top
    let plan := Plan.build weaver.reflection weaver.advices target .call
    (greetings.resolve (.ofMember ⟨1⟩ "greet")).1 = .ok target ∧
      ∀ name, (∃ advice ∈ plan.ofPhase .before, advice.name = name) ↔
        name ∈ ["logged", "named", "either"] := by
  intro weaver top whole target plan
  obtain ⟨registration, accepted⟩ : ∃ registration,
      (Weaver.ofConfig .standard).registration? watcher = some registration := ⟨_, rfl⟩
  -- Classes and annotations leave the aspects as they are.
  have reached : weaver.Reached _ := (Weaver.Reached.accept (.new .standard) accepted).other rfl rfl
  have scan := (ofPhase_build_eq_scan reached target .call .before).2
  have selected : ((((Weaver.ofConfig .standard).registration? watcher).elim []
      Registration.advices).filter fun advice => advice.phase = .before ∧
        advice.pointcut.expression.Selects greetings target .call).map Advice.name =
      ["logged", "named", "either"] := by
    decide +kernel
  refine ⟨rfl, fun name => ?_⟩
  rw [accepted] at selected
  rw [← selected, List.mem_map]
  refine exists_congr fun advice => and_congr_left fun _ => ?_
  rw [scan, List.mem_filter, decide_eq_true_eq]
  -- The one aspect is all that is enabled.
  refine and_congr_left fun _ =>
      ⟨?_, fun listed => ⟨_, _, Dictionary.get?_insert_self _ _ _, listed⟩⟩
  rintro ⟨id, advices, stands, listed⟩
  rw [Dictionary.get?_insert] at stands
  split at stands
  · rwa [Option.elim_some, Option.some.inj stands]
  · exact absurd stands (by simp)

end AspectWeaving
