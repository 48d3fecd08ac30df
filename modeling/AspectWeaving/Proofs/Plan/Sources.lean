import AspectWeaving.Proofs.Aspect.Chronicle
import AspectWeaving.Proofs.Plan.Scan
import AspectWeaving.Proofs.Precedence

/-! Where the advices of a plan come from: the order in which they stand is that of what they were
declared with and of when their aspects were accepted. -/

namespace AspectWeaving

open AspectEvent

variable {β : Type}

/-- The order that an aspect asks for, which is the last place if it asks for none. -/
def AspectDeclaration.order (declaration : AspectDeclaration β) : Order :=
  (declaration.options.bind AspectOptions.order).getD .lowest

/-- An accepted aspect has the order that it asked for. -/
theorem Registration.Fulfils.order_eq {registration : Registration β}
    {declaration : AspectDeclaration β} (fulfils : registration.Fulfils declaration) :
    registration.aspect.order = declaration.order := by
  -- The order is one of the options that the aspect was declared with.
  obtain ⟨⟨options, asked, order, _⟩, _⟩ := fulfils
  rw [order, AspectDeclaration.order, asked, Option.bind_some]

/-- Where an advice comes from: the declaration of its aspect, the number of events before the
aspect was accepted, and its position in the declaration. -/
structure Source (β : Type) where
  declaration : AspectDeclaration β
  time : Nat
  position : Nat

namespace Source

/-- The order that the advice asks for, which is the last place if it asks for none. -/
def wish (source : Source β) : Order :=
  (source.declaration.advices[source.position]?.bind AdviceDeclaration.order).getD .lowest

/-- One source comes before another by the order of its aspect, then by the time at which this was
accepted, then by the order of its advice, and then by the position of the advice. -/
def Before (x y : Source β) : Prop :=
  x.declaration.order.before y.declaration.order = true ∨
    x.declaration.order = y.declaration.order ∧
      (x.time < y.time ∨
        x.time = y.time ∧
          (x.wish.before y.wish = true ∨ x.wish = y.wish ∧ x.position < y.position))

variable {x y z : Source β}

/-- Of sources one before the other the second aspect has not the higher order, and with the same
order it was not accepted earlier. -/
theorem Before.le (before : x.Before y) :
    x.declaration.order.rank ≤ y.declaration.order.rank ∧
      (x.declaration.order = y.declaration.order → x.time ≤ y.time) := by
  -- The cases are the orders, the times and the wishes.
  rcases before with order | ⟨same, time | ⟨same', _⟩⟩
  · have less := Order.before_iff.mp order
    refine ⟨less.le, fun same => ?_⟩
    rw [same] at less
    exact absurd less (lt_irrefl _)
  · exact ⟨by rw [same], fun _ => time.le⟩
  · exact ⟨by rw [same], fun _ => same'.le⟩

/-- What comes between two sources of one aspect is of the aspect as well. -/
theorem time_eq_of_between (early : x.Before y) (late : y.Before z)
    (order : x.declaration.order = z.declaration.order) (time : x.time = z.time) :
    y.time = x.time := by
  -- All three orders are the same, and so are the times.
  have between := late.le.1
  rw [← order] at between
  have same : x.declaration.order = y.declaration.order :=
    Order.rank_injective (le_antisymm early.le.1 between)
  have notBefore := early.le.2 same
  have notAfter := late.le.2 (same.symm.trans order)
  omega

end Source

/-- Among events, newest first, an aspect was accepted at some time and stands, and an advice is the
one that it has at some position. -/
def Advice.From (events : List (AspectEvent β)) (advice : Advice β) (source : Source β) : Prop :=
  ∃ registration, Stands events advice.aspectId source.declaration registration ∧
    events.reverse[source.time]? = some (.accepted source.declaration registration) ∧
    registration.advices[source.position]? = some advice

/-- Where numbers of the items of a list increase, they compare like the positions of the items. -/
theorem lt_iff_of_rising {α : Type} {items : List α} {number? : α → Option Nat}
    (rising : (items.filterMap number?).Pairwise (· < ·)) {i j : Nat} {x y : α} {a b : Nat}
    (here : items[i]? = some x) (there : items[j]? = some y) (first : number? x = some a)
    (second : number? y = some b) : a < b ↔ i < j := by
  rw [List.pairwise_filterMap] at rising
  have ascends {i j : Nat} {x y : α} {a b : Nat} (earlier : i < j) (here : items[i]? = some x)
      (there : items[j]? = some y) (first : number? x = some a) (second : number? y = some b) :
      a < b := by
    obtain ⟨within, rfl⟩ := List.getElem?_eq_some_iff.mp here
    obtain ⟨within', rfl⟩ := List.getElem?_eq_some_iff.mp there
    exact List.pairwise_iff_getElem.mp rising i j within within' earlier a first b second
  refine ⟨fun less => ?_, fun earlier => ascends earlier here there first second⟩
  rcases Nat.lt_trichotomy i j with before | rfl | after
  · exact before
  · -- One item has one number.
    obtain rfl : x = y := Option.some.inj (here.symm.trans there)
    have same : a = b := Option.some.inj (first.symm.trans second)
    omega
  · have more := ascends after there here second first
    omega

variable {events : List (AspectEvent β)} {advice other : Advice β} {source source' : Source β}

/-- What came at some time is among the events. -/
theorem mem_of_time {time : Nat} {event : AspectEvent β}
    (here : events.reverse[time]? = some event) : event ∈ events :=
  -- An event that has a time is one of the events.
  List.mem_reverse.mp (List.mem_of_getElem? here)

/-- At one time one aspect was accepted. -/
theorem Advice.From.declaration_eq (comes : advice.From events source)
    (comes' : other.From events source') (same : source.time = source'.time) :
    source.declaration = source'.declaration := by
  -- At one time there is one event.
  obtain ⟨_, _, here, _⟩ := comes
  obtain ⟨_, _, there, _⟩ := comes'
  rw [same, there] at here
  exact (AspectEvent.accepted.inj (Option.some.inj here)).1.symm

namespace Weaver

variable {weaver : Weaver β}

/-- What an accepted aspect declared it has, advice by advice. -/
theorem Told.binds (told : weaver.Told events) {declaration : AspectDeclaration β}
    {registration : Registration β} {position : Nat}
    (accepted : .accepted declaration registration ∈ events)
    (held : registration.advices[position]? = some advice) :
    ∃ declared, declaration.advices[position]? = some declared ∧
      Advice.Binds registration.aspect declared advice := by
  -- Advices are made of what is declared, one by one.
  have advices := (told.fulfilled accepted).advices
  obtain ⟨within, same⟩ := List.getElem?_eq_some_iff.mp held
  have within' : position < declaration.advices.length := by rwa [advices.length_eq]
  refine ⟨_, List.getElem?_eq_getElem within', ?_⟩
  have binds := advices.get within' within
  simpa [same] using binds

/-- The place of an advice tells its source, by the number of its aspect and by its own. -/
theorem Lived.precedence_eq (lived : weaver.Lived events) {registration : Registration β}
    (accepted : .accepted source.declaration registration ∈ events)
    (held : registration.advices[source.position]? = some advice) :
    advice.precedence.aspectOrder = source.declaration.order ∧
      advice.precedence.aspectSeq = registration.aspect.seq ∧
      advice.precedence.adviceOrder = source.wish := by
  -- The parts of the precedence are written down when the aspect is accepted.
  obtain ⟨declared, found, binds⟩ := lived.told.binds accepted held
  refine ⟨?_, binds.aspectSeq, ?_⟩
  · rw [binds.aspectOrder, (lived.told.fulfilled accepted).order_eq]
  · rw [binds.adviceOrder, Source.wish, found, Option.bind_some]

/-- The numbers of accepted aspects compare like the times of their acceptance. -/
theorem Clocked.seq_lt_iff {registry : AspectRegistry} (clocked : Clocked registry events)
    {time time' : Nat} {declaration declaration' : AspectDeclaration β}
    {registration registration' : Registration β}
    (here : events.reverse[time]? = some (.accepted declaration registration))
    (there : events.reverse[time']? = some (.accepted declaration' registration')) :
    registration.aspect.seq < registration'.aspect.seq ↔ time < time' := by
  -- Numbers rise from event to event.
  have rising : (events.reverse.filterMap seq?).Pairwise (· < ·) := by
    rw [List.filterMap_reverse, List.pairwise_reverse]
    exact clocked.rising
  exact lt_iff_of_rising rising here there rfl rfl

/-- Advices come one before the other exactly if their sources do. -/
theorem Lived.before_iff (lived : weaver.Lived events) (comes : advice.From events source)
    (comes' : other.From events source') :
    advice.precedence.before other.precedence = true ↔ source.Before source' := by
  obtain ⟨registration, _, here, held⟩ := comes
  obtain ⟨registration', _, there, held'⟩ := comes'
  have clocked := lived.clocked
  have accepted := mem_of_time here
  have accepted' := mem_of_time there
  obtain ⟨order, seq, wish⟩ := lived.precedence_eq accepted held
  obtain ⟨order', seq', wish'⟩ := lived.precedence_eq accepted' held'
  have before := clocked.seq_lt_iff here there
  have after := clocked.seq_lt_iff there here
  have together : registration.aspect.seq = registration'.aspect.seq ↔
      source.time = source'.time := by omega
  unfold Precedence.before Source.Before
  simp only [Bool.or_eq_true, Bool.and_eq_true, beq_iff_eq, decide_eq_true_eq, order, order', seq,
    seq', wish, wish', before, together]
  refine or_congr_right (and_congr_right fun _ => or_congr_right (and_congr_right fun same =>
    or_congr_right (and_congr_right fun _ => ?_)))
  -- Advices of one aspect are numbered by their positions.
  rw [same, there] at here
  obtain ⟨_, rfl⟩ := AspectEvent.accepted.inj (Option.some.inj here)
  have ordered := clocked.ordered accepted
  rw [← List.filterMap_eq_map] at ordered
  exact lt_iff_of_rising ordered held held' rfl rfl

/-- What stands was accepted at some time. -/
theorem exists_time {id : String} {declaration : AspectDeclaration β}
    {registration : Registration β} (stands : Stands events id declaration registration) :
    ∃ time : Nat, events.reverse[time]? = some (.accepted declaration registration) := by
  -- The time of an event is the number of those before it.
  obtain ⟨_, late, early, rfl, _⟩ := stands
  exact ⟨early.length, by simp⟩

/-- An advice is listed exactly if it has a source. -/
theorem Lived.exists_from (lived : weaver.Lived events) :
    (∃ id, advice ∈ weaver.advices.ofAspect id) ↔ ∃ source, advice.From events source := by
  have told := lived.told
  obtain ⟨enabled, reached, tracks⟩ := told.reached
  rw [reached.exists_mem_ofAspect]
  constructor
  · rintro ⟨id, advices, found, member⟩
    obtain ⟨declaration, registration, stands, rfl⟩ := (tracks id advices).mp found
    obtain ⟨time, accepted⟩ := exists_time stands
    obtain ⟨position, held⟩ := List.mem_iff_getElem?.mp member
    refine ⟨⟨declaration, time, position⟩, registration, ?_, accepted, held⟩
    -- The advice is of the aspect that has the id.
    obtain ⟨_, _, binds⟩ := told.binds (mem_of_time accepted) held
    rwa [binds.aspectId, stands.1]
  · rintro ⟨source, registration, stands, _, held⟩
    exact ⟨advice.aspectId, registration.advices,
      (tracks _ _).mpr ⟨_, registration, stands, rfl⟩, List.mem_of_getElem? held⟩

/-- Advices of one aspect were accepted at the same time. -/
theorem Lived.time_eq_iff (lived : weaver.Lived events) (comes : advice.From events source)
    (comes' : other.From events source') :
    advice.aspectId = other.aspectId ↔ source.time = source'.time := by
  obtain ⟨registration, stands, here, _⟩ := comes
  obtain ⟨registration', stands', there, _⟩ := comes'
  constructor
  · intro same
    -- One aspect is enabled under the id, and it has one number.
    have tracks := lived.told.aspects
    have one := (tracks _ _).mpr ⟨_, registration, stands, rfl⟩
    have another := (tracks _ _).mpr ⟨_, registration', stands', rfl⟩
    rw [← same, one, Option.some.injEq] at another
    have before := lived.clocked.seq_lt_iff here there
    have after := lived.clocked.seq_lt_iff there here
    rw [another] at before after
    omega
  · intro same
    rw [same, there] at here
    obtain ⟨_, rfl⟩ := AspectEvent.accepted.inj (Option.some.inj here)
    exact stands.1.symm.trans stands'.1

/-- The numbers in the place of an enabled advice are below those of the aspects that were to be
enabled and of the advices that they declared. -/
theorem Lived.precedence_lt (lived : weaver.Lived events) {id : String}
    (listed : advice ∈ weaver.advices.ofAspect id) :
    advice.precedence.aspectSeq < (declarations events).length ∧
      advice.precedence.adviceSeq <
        ((declarations events).map fun declaration => declaration.advices.length).sum := by
  -- No more numbers are given than there are declarations.
  have clocked := lived.clocked
  obtain ⟨source, registration, _, here, held⟩ := lived.exists_from.mp ⟨id, listed⟩
  have accepted := mem_of_time here
  have seq := (lived.precedence_eq accepted held).2.1
  have taken : registration.aspect.seq ∈ seqs events :=
    List.mem_filterMap.mpr ⟨_, accepted, rfl⟩
  obtain ⟨_, reached, _⟩ := lived.told.reached
  constructor
  · have below := clocked.below _ taken
    have most := clocked.aspects
    omega
  · have below := reached.roster.below listed
    have most := clocked.advices
    omega

/-- No two enabled advices have one place. -/
theorem Lived.nodup_precedences (lived : weaver.Lived events) :
    ((weaver.aspects.ids.flatMap weaver.advices.ofAspect).map Advice.precedence).Nodup := by
  obtain ⟨_, reached, _⟩ := lived.told.reached
  have roster := reached.roster
  -- Advices of different aspects differ in their aspects, and those of one aspect are listed once.
  have once : (weaver.aspects.ids.flatMap weaver.advices.ofAspect).Nodup := by
    rw [List.nodup_flatMap]
    refine ⟨fun id _ => roster.nodup id, ?_⟩
    refine List.Pairwise.imp ?_ weaver.aspects.aspects.nodup
    intro id other different advice first second
    exact different ((roster.owned first).symm.trans (roster.owned second))
  refine once.map_on fun x first y second same => ?_
  obtain ⟨_, _, first⟩ := List.mem_flatMap.mp first
  obtain ⟨_, _, second⟩ := List.mem_flatMap.mp second
  exact roster.apart first second (by rw [same])

/-- In each phase of a plan, whatever the classes and annotations, the advices ascend strictly, and
they are those advices with a source that belong there. -/
theorem Lived.ofPhase_build (lived : weaver.Lived events) (reflection : Reflection β)
    (target : Target) (joinpoint : Joinpoint) (phase : Phase) :
    (((Plan.build reflection weaver.advices target joinpoint).ofPhase phase).Pairwise fun x y =>
        x.precedence.before y.precedence = true) ∧
      ∀ advice, advice ∈ (Plan.build reflection weaver.advices target joinpoint).ofPhase phase ↔
        (∃ source, advice.From events source) ∧ advice.phase = phase ∧
          advice.pointcut.expression.Selects reflection target joinpoint := by
  -- The advices of a plan are those that select its target, sorted by precedence.
  obtain ⟨_, reached, _⟩ := lived.told.reached
  refine ⟨(reached.roster.pairwise_build reflection target joinpoint).filter _, fun advice => ?_⟩
  rw [Plan.ofPhase, List.mem_filter, reached.roster.mem_build, lived.exists_from, beq_iff_eq,
    and_right_comm, and_assoc]

/-- In each phase of a plan the advices stand in the order of their sources. -/
theorem Lived.pairwise_from (lived : weaver.Lived events) (reflection : Reflection β)
    (target : Target) (joinpoint : Joinpoint) (phase : Phase) :
    ((Plan.build reflection weaver.advices target joinpoint).ofPhase phase).Pairwise fun x y =>
      ∀ source source', x.From events source → y.From events source' → source.Before source' := by
  -- Precedences are compared as sources are.
  have sorted := (lived.ofPhase_build reflection target joinpoint phase).1
  exact sorted.imp fun before source source' comes comes' =>
    (lived.before_iff comes comes').mp before

/-- The advices of an aspect stand side by side: what stands between two of them is of the aspect as
well. -/
theorem Lived.contiguous (lived : weaver.Lived events) {reflection : Reflection β}
    {target : Target} {joinpoint : Joinpoint} {phase : Phase} {front middle back : List (Advice β)}
    (listed : (Plan.build reflection weaver.advices target joinpoint).ofPhase phase =
      front ++ advice :: (middle ++ other :: back))
    (same : advice.aspectId = other.aspectId) :
    ∀ between ∈ middle, between.aspectId = advice.aspectId := by
  -- An advice in between comes from an aspect with the same order, accepted at the same time.
  intro between member
  have sources := (lived.ofPhase_build reflection target joinpoint phase).2
  have sorted := lived.pairwise_from reflection target joinpoint phase
  rw [listed] at sorted sources
  obtain ⟨first, comes⟩ := ((sources advice).mp (by simp)).1
  obtain ⟨last, comes'⟩ := ((sources other).mp (by simp)).1
  obtain ⟨inner, within⟩ := ((sources between).mp (by simp [member])).1
  have tail := List.pairwise_cons.mp (List.pairwise_append.mp sorted).2.1
  have early : first.Before inner :=
    tail.1 between (by simp [member]) first inner comes within
  have late : inner.Before last :=
    (List.pairwise_append.mp tail.2).2.2 between member other (by simp) inner last within comes'
  have together := (lived.time_eq_iff comes comes').mp same
  have order := congrArg AspectDeclaration.order (comes.declaration_eq comes' together)
  exact (lived.time_eq_iff within comes).mpr
    (Source.time_eq_of_between early late order together)

end Weaver

end AspectWeaving
