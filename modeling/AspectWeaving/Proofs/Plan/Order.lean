import AspectWeaving.Proofs.Aspect.Acceptance
import AspectWeaving.Proofs.Plan.Sources
import Mathlib.Data.List.Forall2

/-! The order of advices is decided by what is declared and by when aspects were accepted, and by
the declarations alone if no two aspects ask for one order. -/

namespace AspectWeaving

open AspectEvent

variable {β : Type}

section Partners

variable {α γ : Type} {partners : α → γ → Prop} {before : α → α → Prop} {before' : γ → γ → Prop}

/-- The first items of two sorted lists are partners if each has a partner in the other list and
partners are sorted alike. -/
theorem partners_first (asymm : ∀ {x x'}, before x x' → ¬ before x' x)
    (alike : ∀ {x x' y y'}, partners x y → partners x' y' → (before x x' ↔ before' y y'))
    {x : α} {xs : List α} {y : γ} {ys : List γ} (least : ∀ x' ∈ xs, before x x')
    (least' : ∀ y' ∈ ys, before' y y') (left : ∃ y' ∈ y :: ys, partners x y')
    (right : ∃ x' ∈ x :: xs, partners x' y) : partners x y := by
  obtain ⟨y', found, partner⟩ := left
  obtain ⟨x', found', partner'⟩ := right
  rcases List.mem_cons.mp found with rfl | later
  · exact partner
  · rcases List.mem_cons.mp found' with rfl | later'
    · exact partner'
    · -- Otherwise each of the two would come before the other.
      have backwards := (alike partner' partner).mpr (least' y' later)
      exact absurd backwards (asymm (least x' later'))

/-- Two sorted lists, each item of which has a partner in the other list, pair up one by one if
partners are sorted alike. -/
theorem forall₂_of_partners {xs : List α} {ys : List γ} (sorted : xs.Pairwise before)
    (sorted' : ys.Pairwise before') (irrefl : ∀ x, ¬ before x x) (irrefl' : ∀ y, ¬ before' y y)
    (asymm : ∀ {x x'}, before x x' → ¬ before x' x)
    (alike : ∀ {x x' y y'}, partners x y → partners x' y' → (before x x' ↔ before' y y'))
    (left : ∀ x ∈ xs, ∃ y ∈ ys, partners x y) (right : ∀ y ∈ ys, ∃ x ∈ xs, partners x y) :
    List.Forall₂ partners xs ys := by
  -- The induction is on the first list; what comes after the first items has its partners there.
  induction xs generalizing ys with
  | nil =>
    cases ys with
    | nil => exact .nil
    | cons y ys =>
      obtain ⟨x, member, _⟩ := right y List.mem_cons_self
      contradiction
  | cons x xs ih =>
    cases ys with
    | nil =>
      obtain ⟨y, member, _⟩ := left x List.mem_cons_self
      contradiction
    | cons y ys =>
      obtain ⟨least, sorted⟩ := List.pairwise_cons.mp sorted
      obtain ⟨least', sorted'⟩ := List.pairwise_cons.mp sorted'
      have first := partners_first @asymm @alike least least' (left x List.mem_cons_self)
        (right y List.mem_cons_self)
      refine .cons first (ih sorted sorted' (fun x' later => ?_) fun y' later => ?_)
      · obtain ⟨y', found, partner⟩ := left x' (List.mem_cons_of_mem _ later)
        rcases List.mem_cons.mp found with rfl | rest
        · exact absurd ((alike first partner).mp (least x' later)) (irrefl' _)
        · exact ⟨y', rest, partner⟩
      · obtain ⟨x', found, partner⟩ := right y' (List.mem_cons_of_mem _ later)
        rcases List.mem_cons.mp found with rfl | rest
        · exact absurd ((alike first partner).mpr (least' y' later)) (irrefl _)
        · exact ⟨x', rest, partner⟩

end Partners

namespace Source

/-- A source but for the time at which its aspect was accepted. -/
def timeless (source : Source β) : Source β := { source with time := 0 }

/-- Where one order means one time, sources compare as they do without their times. -/
theorem before_timeless_iff {x y : Source β}
    (apart : x.declaration.order = y.declaration.order → x.time = y.time) :
    x.timeless.Before y.timeless ↔ x.Before y := by
  refine or_congr_right (and_congr_right fun same => ?_)
  have together := apart same
  -- Neither time is before the other, and the rest does not depend on the times.
  have neither : ¬ x.time < y.time := by omega
  have neither' : ¬ x.timeless.time < y.timeless.time := lt_irrefl 0
  rw [or_iff_right neither, or_iff_right neither']
  exact and_congr_left fun _ => ⟨fun _ => together, fun _ => rfl⟩

end Source

/-- Two advices come from one position of one declaration. -/
def Advice.Partner (events events' : List (AspectEvent β)) (x y : Advice β) : Prop :=
  ∃ source source', x.From events source ∧ y.From events' source' ∧
    source.timeless = source'.timeless

/-- Two advices are the same but for ids that were generated: they come from one position of one
declaration, whenever it was accepted, and are as it says. -/
structure Advice.Twin (events events' : List (AspectEvent β)) (x y : Advice β) : Prop where
  sources : ∃ declaration position time time',
    x.From events ⟨declaration, time, position⟩ ∧ y.From events' ⟨declaration, time', position⟩ ∧
      ∀ id, declaration.askedId? = some id → x.aspectId = id ∧ y.aspectId = id
  name : x.name = y.name
  pointcut : x.pointcut = y.pointcut
  body : x.body = y.body
  aspectOrder : x.precedence.aspectOrder = y.precedence.aspectOrder
  adviceOrder : x.precedence.adviceOrder = y.precedence.adviceOrder

/-- Twins have one name. -/
theorem Advice.map_name_eq {events events' : List (AspectEvent β)}
    {advices others : List (Advice β)}
    (twins : List.Forall₂ (Advice.Twin events events') advices others) :
    advices.map Advice.name = others.map Advice.name := by
  -- Twins have one name.
  rw [← List.forall₂_eq_eq_eq, List.forall₂_map_left_iff, List.forall₂_map_right_iff]
  exact twins.imp fun _ _ twin => twin.name

namespace Weaver

variable {weaver weaver' : Weaver β} {events events' : List (AspectEvent β)}
  {advice other : Advice β} {source source' : Source β}

/-- No two enabled aspects have one order. -/
def OrdersApart (weaver : Weaver β) : Prop :=
  ∀ {id id' aspect aspect'}, weaver.aspects.get? id = some aspect →
    weaver.aspects.get? id' = some aspect' → aspect.order = aspect'.order → id = id'

/-- Orders are apart if no order is listed twice. -/
theorem ordersApart_of_nodup
    (once : (weaver.aspects.aspects.entries.map fun entry => entry.2.order).Nodup) :
    weaver.OrdersApart := by
  -- No order occurs twice among the entries.
  intro id id' aspect aspect' found found' same
  have together := List.inj_on_of_nodup_map once (Dictionary.get?_eq_some.mp found)
    (Dictionary.get?_eq_some.mp found') same
  exact congrArg Prod.fst together

/-- Where orders are apart, aspects with one order were accepted at one time. -/
theorem Lived.time_eq_of_order (lived : weaver.Lived events) (apart : weaver.OrdersApart)
    (comes : advice.From events source) (comes' : other.From events source')
    (same : source.declaration.order = source'.declaration.order) : source.time = source'.time := by
  -- Aspects with one order that both stand are one aspect.
  refine (lived.time_eq_iff comes comes').mp ?_
  obtain ⟨registration, stands, here, _⟩ := comes
  obtain ⟨registration', stands', there, _⟩ := comes'
  have told := lived.told
  have order := (told.fulfilled (mem_of_time here)).order_eq
  have order' := (told.fulfilled (mem_of_time there)).order_eq
  exact apart ((told.aspects _ _).mpr ⟨_, registration, stands, rfl⟩)
    ((told.aspects _ _).mpr ⟨_, registration', stands', rfl⟩) (by rw [order, order', same])

/-- Advices from one position of one declaration are the same but for ids that were generated. -/
theorem Lived.twin (lived : weaver.Lived events) (lived' : weaver'.Lived events')
    (partner : advice.Partner events events' other) : advice.Twin events events' other := by
  obtain ⟨source, source', comes, comes', same⟩ := partner
  obtain ⟨declaration, time, position⟩ := source
  obtain ⟨declaration', time', position'⟩ := source'
  obtain ⟨rfl, -, rfl⟩ := Source.mk.inj same
  have sources := And.intro comes comes'
  obtain ⟨registration, stands, here, held⟩ := comes
  obtain ⟨registration', stands', there, held'⟩ := comes'
  have accepted := mem_of_time here
  have accepted' := mem_of_time there
  obtain ⟨declared, found, binds⟩ := lived.told.binds accepted held
  obtain ⟨declared', found', binds'⟩ := lived'.told.binds accepted' held'
  have fulfils := lived.told.fulfilled accepted
  have fulfils' := lived'.told.fulfilled accepted'
  -- Both are as one and the same advice was declared.
  obtain rfl : declared = declared' := Option.some.inj (found.symm.trans found')
  refine ⟨⟨declaration, position, time, time', sources.1, sources.2, fun id asked => ?_⟩, ?_, ?_,
    ?_, ?_, ?_⟩
  · rw [binds.aspectId, binds'.aspectId, fulfils.id_eq asked, fulfils'.id_eq asked]
    exact ⟨rfl, rfl⟩
  · rw [binds.name, binds'.name]
  · exact Except.ok.inj (binds.pointcut.symm.trans binds'.pointcut)
  · rw [binds.body, binds'.body]
  · rw [binds.aspectOrder, binds'.aspectOrder, fulfils.order_eq, fulfils'.order_eq]
  · rw [binds.adviceOrder, binds'.adviceOrder]

/-- An advice of a weaver has a twin in another one that has the same aspects. -/
theorem Lived.exists_twin (lived : weaver.Lived events) (lived' : weaver'.Lived events')
    (same : SameAspects events events') (comes : advice.From events source) :
    ∃ (other : Advice β) (source' : Source β), other.From events' source' ∧
      source'.timeless = source.timeless := by
  obtain ⟨registration, stands, here, held⟩ := comes
  obtain ⟨id, registration', stands'⟩ := (same _).mp ⟨_, registration, stands⟩
  obtain ⟨time, there⟩ := exists_time stands'
  -- As many advices were accepted as were declared.
  have count := (lived.told.fulfilled (mem_of_time here)).advices
  have accepted' := mem_of_time there
  have count' := (lived'.told.fulfilled accepted').advices
  have within : source.position < registration'.advices.length := by
    rw [← count'.length_eq, count.length_eq]
    exact (List.getElem?_eq_some_iff.mp held).1
  have held' := List.getElem?_eq_getElem within
  obtain ⟨_, _, binds⟩ := lived'.told.binds accepted' held'
  refine ⟨_, { source with time }, ⟨registration', ?_, there, held'⟩, rfl⟩
  rwa [binds.aspectId, stands'.1]

/-- What is shown by the sources of the advices in a phase, but for times, is the same in weavers
that have the same aspects. -/
theorem Lived.exists_mem_ofPhase (lived : weaver.Lived events) (lived' : weaver'.Lived events')
    (same : SameAspects events events') {reflection : Reflection β} {target : Target}
    {joinpoint : Joinpoint} {phase : Phase}
    (member : advice ∈ (Plan.build reflection weaver.advices target joinpoint).ofPhase phase)
    (comes : advice.From events source) :
    ∃ (other : Advice β) (source' : Source β),
      other ∈ (Plan.build reflection weaver'.advices target joinpoint).ofPhase phase ∧
        other.From events' source' ∧ source'.timeless = source.timeless := by
  obtain ⟨_, inPhase, shows⟩ :=
    ((lived.ofPhase_build reflection target joinpoint phase).2 advice).mp member
  obtain ⟨other, source', comes', timeless⟩ := lived.exists_twin lived' same comes
  have twin := lived.twin lived' ⟨source, source', comes, comes', timeless.symm⟩
  refine ⟨other, source', ?_, comes', timeless⟩
  -- The pointcut, which decides where the advice belongs, is the same.
  rw [(lived'.ofPhase_build reflection target joinpoint phase).2]
  rw [Advice.phase, twin.pointcut] at inPhase
  rw [twin.pointcut] at shows
  exact ⟨⟨source', comes'⟩, inPhase, shows⟩

/-- Where orders are apart, partners come one before the other in both weavers or in none. -/
theorem Lived.before_iff_of_partner (lived : weaver.Lived events)
    (lived' : weaver'.Lived events') (apart : weaver.OrdersApart) (apart' : weaver'.OrdersApart)
    {x x' y y' : Advice β} (partner : x.Partner events events' y)
    (partner' : x'.Partner events events' y') :
    x.precedence.before x'.precedence = true ↔ y.precedence.before y'.precedence = true := by
  obtain ⟨_, _, comes, comes', same⟩ := partner
  obtain ⟨_, _, later, later', same'⟩ := partner'
  -- Both orders are those of the sources without their times.
  rw [lived.before_iff comes later, lived'.before_iff comes' later',
    ← Source.before_timeless_iff (lived.time_eq_of_order apart comes later),
    ← Source.before_timeless_iff (lived'.time_eq_of_order apart' comes' later'), same, same']

/-- With the same classes and annotations, two weavers with the same aspects and orders apart list
in each phase of each plan the same advices in the same order, but for ids that were generated. -/
theorem Lived.forall₂_twin (lived : weaver.Lived events) (lived' : weaver'.Lived events')
    (same : SameAspects events events') (apart : weaver.OrdersApart) (apart' : weaver'.OrdersApart)
    (reflection : Reflection β) (target : Target) (joinpoint : Joinpoint) (phase : Phase) :
    List.Forall₂ (Advice.Twin events events')
      ((Plan.build reflection weaver.advices target joinpoint).ofPhase phase)
      ((Plan.build reflection weaver'.advices target joinpoint).ofPhase phase) := by
  -- Both lists are sorted by precedence, and each advice has a partner in the other one.
  have sameBack : SameAspects events' events := fun declaration => (same declaration).symm
  obtain ⟨sorted, listed⟩ := lived.ofPhase_build reflection target joinpoint phase
  obtain ⟨sorted', listed'⟩ := lived'.ofPhase_build reflection target joinpoint phase
  have paired : List.Forall₂ (Advice.Partner events events')
      ((Plan.build reflection weaver.advices target joinpoint).ofPhase phase)
      ((Plan.build reflection weaver'.advices target joinpoint).ofPhase phase) := by
    -- Partners come in the same order, since orders are apart.
    refine forall₂_of_partners sorted sorted' (fun x => Precedence.before_irrefl x.precedence)
      (fun y => Precedence.before_irrefl y.precedence) Precedence.before_asymm
      (lived.before_iff_of_partner lived' apart apart') (fun x member => ?_) (fun y member => ?_)
    · obtain ⟨source, comes⟩ := ((listed x).mp member).1
      obtain ⟨y, source', found, comes', timeless⟩ :=
        lived.exists_mem_ofPhase lived' same member comes
      exact ⟨y, found, source, source', comes, comes', timeless.symm⟩
    · obtain ⟨source', comes'⟩ := ((listed' y).mp member).1
      obtain ⟨x, source, found, comes, timeless⟩ :=
        lived'.exists_mem_ofPhase lived sameBack member comes'
      exact ⟨x, found, source, source', comes, comes', timeless⟩
  exact paired.imp fun _ _ => lived.twin lived'

/-- The order of advices is decided by their places, and these by what was declared and by when the
aspects were accepted. -/
structure ByPrecedence (weaver : Weaver β) (events : List (AspectEvent β)) : Prop where
  /-- No two enabled advices have one place. -/
  nodup : ((weaver.aspects.ids.flatMap weaver.advices.ofAspect).map Advice.precedence).Nodup
  /-- The numbers in places are below those of the aspects that were to be enabled and of their
  advices. -/
  bounds : ∀ id advice, advice ∈ weaver.advices.ofAspect id →
    advice.precedence.aspectSeq < (declarations events).length ∧
      advice.precedence.adviceSeq <
        ((declarations events).map fun declaration => declaration.advices.length).sum
  /-- Each advice of a plan has a source. -/
  sources : ∀ reflection target joinpoint phase,
    ∀ advice ∈ (Plan.build reflection weaver.advices target joinpoint).ofPhase phase,
      ∃ source, advice.From events source
  /-- The advices of a phase stand in the order of their sources. -/
  sorted : ∀ reflection target joinpoint phase,
    ((Plan.build reflection weaver.advices target joinpoint).ofPhase phase).Pairwise fun x y =>
      ∀ source source', x.From events source → y.From events source' → source.Before source'
  /-- The advices of one aspect stand side by side. -/
  contiguous : ∀ reflection target joinpoint phase front middle back (x y : Advice β),
    (Plan.build reflection weaver.advices target joinpoint).ofPhase phase =
      front ++ x :: (middle ++ y :: back) →
    x.aspectId = y.aspectId → ∀ between ∈ middle, between.aspectId = x.aspectId

/-- Whatever a weaver has been through, the order of its advices is decided by their places. Another
weaver that has the same aspects lists the same advices in the same order if no two aspects have one
order; and it has the same aspects if it enables them in any other order, no two under one id. -/
theorem Lived.plans_ordered (lived : weaver.Lived events) (lived' : weaver'.Lived events') :
    weaver.ByPrecedence events ∧
      (SameAspects events events' → weaver.OrdersApart → weaver'.OrdersApart →
        ∀ reflection target joinpoint phase, List.Forall₂ (Advice.Twin events events')
          ((Plan.build reflection weaver.advices target joinpoint).ofPhase phase)
          ((Plan.build reflection weaver'.advices target joinpoint).ofPhase phase)) ∧
      ((∀ id, .disabled id ∉ events) → (∀ id, .disabled id ∉ events') →
        (declarations events).Perm (declarations events') →
        AspectDeclaration.IdsApart (declarations events) → SameAspects events events') := by
  -- Each part has its lemma.
  refine ⟨⟨lived.nodup_precedences, fun _ _ => lived.precedence_lt, ?_, ?_, ?_⟩,
    lived.forall₂_twin lived', lived.sameAspects_of_perm lived'⟩
  · intro reflection target joinpoint phase advice member
    exact (((lived.ofPhase_build reflection target joinpoint phase).2 advice).mp member).1
  · intro reflection target joinpoint phase
    exact lived.pairwise_from reflection target joinpoint phase
  · intro reflection target joinpoint phase front middle back x y listed same
    exact lived.contiguous listed same

/-- An aspect with one advice around everything that asks for an id and for an order. -/
def ranked (id : String) (name : String) (place : Int) : AspectDeclaration Unit where
  typeName := "Ranked"
  objectId := 0
  options := some ⟨some id, some (.value place)⟩
  advices := [⟨name, .around, "any *", none, ()⟩]

/-- A weaver that has enabled two aspects, one after the other. -/
def enabling (first second : AspectDeclaration Unit) : Weaver Unit :=
  (((ofConfig .standard).enable first).2.enable second).2

/-- What has come of enabling the two. -/
def enablings (first second : AspectDeclaration Unit) : List (AspectEvent Unit) :=
  [((ofConfig .standard).enable first).2.outcomeOf second, (ofConfig .standard).outcomeOf first]

/-- A weaver has been through what it has enabled. -/
theorem lived_enabling (first second : AspectDeclaration Unit) :
    (enabling first second).Lived (enablings first second) :=
  -- Both aspects are enabled from the start.
  ((Lived.new .standard).enable first).enable second

/-- The declarations are those of the aspects that were to be enabled, newest first. -/
theorem declarations_enablings (first second : AspectDeclaration Unit) :
    declarations (enablings first second) = [second, first] := by
  -- The later declaration comes first.
  rw [enablings, declarations_cons_outcomeOf, declarations_cons_outcomeOf]
  rfl

/-- Nothing has been disabled by it. -/
theorem disabled_notMem_enablings (first second : AspectDeclaration Unit) (id : String) :
    .disabled id ∉ enablings first second := by
  -- Both events are about enabling.
  simp only [enablings, outcomeOf, List.mem_cons, List.not_mem_nil, or_false, not_or]
  constructor <;> split <;> simp

/-- Two aspects that are enabled in either order, under different ids, are planned in the order that
they ask for. -/
theorem plans_ordered_ranked :
    let early := ranked "x" "early" 1
    let late := ranked "z" "late" 2
    let weaver := enabling early late
    let weaver' := enabling late early
    let listed (weaver : Weaver Unit) (target : Target) (joinpoint : Joinpoint) (phase : Phase) :=
      (Plan.build weaver.reflection weaver.advices target joinpoint).ofPhase phase
    (∃ advice ∈ listed weaver (.root ⟨⟨0⟩, "A", "A"⟩ (.ofClass ⟨0⟩)) .construction .around,
        advice.name = "late") ∧
      ∀ target joinpoint phase, List.Forall₂
        (Advice.Twin (enablings early late) (enablings late early))
        (listed weaver target joinpoint phase) (listed weaver' target joinpoint phase) := by
  intro early late weaver weaver' listed
  have lived := lived_enabling early late
  have lived' := lived_enabling late early
  obtain ⟨_, twins, same⟩ := lived.plans_ordered lived'
  constructor
  · let made : Advice Unit :=
      ⟨"late", ⟨.around, ⟨.any, [], "*", .nil⟩⟩, "z", ⟨.value 2, 1, .lowest, 1⟩, ()⟩
    have held : made ∈ weaver.advices.ofAspect "z" := List.mem_singleton_self made
    -- The pattern is a star and no annotation is asked for.
    refine ⟨made, ((lived.ofPhase_build _ _ _ _).2 made).mpr
      ⟨lived.exists_from.mp ⟨"z", held⟩, rfl, ?_, .inl rfl⟩, rfl⟩
    have star : made.pointcut.expression.name.toList = ['*'] := by decide
    rw [star]
    exact Pointcut.Glob.matches_star.mpr ⟨_, [], (List.append_nil _).symm, .nil⟩
  · refine twins (same (disabled_notMem_enablings _ _) (disabled_notMem_enablings _ _) ?_ ?_)
      (ordersApart_of_nodup (by decide)) (ordersApart_of_nodup (by decide)) weaver.reflection
    · rw [declarations_enablings, declarations_enablings]
      exact .swap _ _ _
    · rw [declarations_enablings]
      refine ⟨by decide, fun named _ unnamed member missing => ?_⟩
      -- Both ask for an id.
      rcases List.mem_pair.mp member with rfl | rfl <;> contradiction

/-- Where two aspects ask for one id, the one that is enabled later stands, whatever the orders. -/
theorem not_twins_of_one_id :
    ¬ ∀ (weaver weaver' : Weaver Unit) (events events' : List (AspectEvent Unit)),
      weaver.Lived events → weaver'.Lived events' →
      (∀ event ∈ events ++ events', ∃ declaration registration,
        event = .accepted declaration registration) →
      (declarations events).Perm (declarations events') →
      ((declarations events).map AspectDeclaration.order).Nodup →
      ∀ reflection target joinpoint phase, List.Forall₂ (Advice.Twin events events')
        ((Plan.build reflection weaver.advices target joinpoint).ofPhase phase)
        ((Plan.build reflection weaver'.advices target joinpoint).ofPhase phase) := by
  -- The second aspect replaces the first one, which has the same id, so that the one left depends
  -- on the order.
  intro twins
  let early := ranked "a" "early" 1
  let late := ranked "a" "late" 2
  let reflection := (enabling early late).reflection
  let target : Target := .root ⟨⟨0⟩, "A", "A"⟩ (.ofClass ⟨0⟩)
  let around (weaver : Weaver Unit) :=
    (Plan.build reflection weaver.advices target .construction).ofPhase .around
  have paired : List.Forall₂ (Advice.Twin (enablings early late) (enablings late early))
      (around (enabling early late)) (around (enabling late early)) := by
    refine twins _ _ _ _ (lived_enabling early late) (lived_enabling late early) ?_ ?_ ?_ _ _ _ _
    · intro event member
      simp only [enablings, List.cons_append, List.nil_append, List.mem_cons, List.not_mem_nil,
        or_false] at member
      rcases member with rfl | rfl | rfl | rfl <;> exact ⟨_, _, rfl⟩
    · rw [declarations_enablings, declarations_enablings]
      exact .swap _ _ _
    · rw [declarations_enablings]
      decide
  have names := Advice.map_name_eq paired
  have here : (around (enabling early late)).map Advice.name = ["late"] := by decide +kernel
  have there : (around (enabling late early)).map Advice.name = ["early"] := by decide +kernel
  rw [here, there] at names
  contradiction

end Weaver

end AspectWeaving
