import AspectWeaving.Proofs.Class.Dispatch
import AspectWeaving.Proofs.Element.Success
import AspectWeaving.Proofs.Engine.Cores
import AspectWeaving.Proofs.Engine.Persistence
import AspectWeaving.Proofs.Plan.Freshness

/-! Woven classes as dispatch tables: the class that is woven in a slot answers to each name with
the nearest declaration in the hierarchy, makes instances from the root down, and stays what it
is. -/

namespace AspectWeaving

variable {β τ : Type}

/-- A symbol makes instances by some constructors: whatever is linked to it initializes the instance
of its context by them, and gives the instance or the error. -/
def Symbol.MakesBy (symbol : Symbol β) (chain : List β) : Prop :=
  ∀ label, ∃ core, Joinpoint.construction.link symbol label = .ok core ∧
    ∀ {τ : Type} (engine : Engine β τ) {context : AdviceContext β} {receiver : InstanceId},
      context.receiver = some receiver → ∀ {start finish result},
        (engine.runCore core context).run start = some (result, finish) ↔
          ∃ outcome, engine.Initializes receiver context.args chain start outcome finish ∧
            result = outcome.map fun _ => .object receiver

/-- A woven class is the dispatch table of a class: it has each name that the hierarchy gives the
class once, as what the nearest declaration declares it as, with the symbol of that declaration. -/
structure WovenClass.Dispatches (woven : WovenClass β) (classes : ClassTable β) (id : ClassId) :
    Prop where
  -- Own names come before inherited ones, at each step up.
  lists : classes.Lists id ⟨woven.methods.keys, woven.properties.keys⟩
  once : (woven.methods.keys ++ woven.properties.keys).Nodup
  -- A method that is declared without a body hides the body that an ancestor has for it.
  call : ∀ {name natural}, (woven.slot? .call name).map Slot.natural = some natural ↔
    ∃ body, classes.Nearest name id (.method body) ∧ natural = body.map Symbol.method
  get : ∀ {name natural}, (woven.slot? .get name).map Slot.natural = some natural ↔
    ∃ property, classes.Nearest name id (.property property) ∧ natural = some (.property property)
  set : ∀ {name natural}, (woven.slot? .set name).map Slot.natural = some natural ↔
    ∃ property, classes.Nearest name id (.property property) ∧ natural = some (.property property)
  construction : ∃ chain symbol, classes.Constructors id chain ∧
    woven.construction.natural = some symbol ∧ symbol.MakesBy chain
  instances : ∀ {other}, woven.isInstanceOf other = true ↔
    Relation.ReflTransGen classes.ParentOf id other

/-- The symbol of a chain of constructors makes instances by them. -/
theorem Symbol.makesBy_constructor (chain : List β) : (Symbol.constructor chain).MakesBy chain := by
  intro label
  refine ⟨.construct chain, rfl, ?_⟩
  intro τ engine context receiver given start finish result
  -- The context has an instance, and the core runs the chain on it.
  unfold Engine.runCore
  rw [given, Engine.run_bind_eq_some]
  simp only [Engine.run_runChain_eq_some, Engine.run_pure_eq_some]
  constructor
  · rintro ⟨outcome, between, initializes, rfl, rfl⟩
    exact ⟨outcome, initializes, rfl⟩
  · rintro ⟨outcome, initializes, rfl⟩
    exact ⟨outcome, finish, initializes, rfl, rfl⟩

namespace Weaver

open Resolving Element

variable {classes : ClassTable β} {id : ClassId} {path : List ClassId}

/-- Slots that were made for some names have the names in their order, each with its own natural
symbol. -/
structure SlotsFor (slots : Dictionary String (Slot β)) (natural : String → Option (Symbol β))
    (names : List String) : Prop where
  keys : slots.keys = names
  natural : ∀ {name slot}, slots.get? name = some slot → slot.natural = natural name

/-- A name has a slot with a symbol exactly if it is one of the names, and the symbol is its own. -/
theorem SlotsFor.map_natural {slots : Dictionary String (Slot β)}
    {natural : String → Option (Symbol β)} {names : List String}
    (made : SlotsFor slots natural names) {name : String} {symbol : Option (Symbol β)} :
    (slots.get? name).map Slot.natural = some symbol ↔ name ∈ names ∧ symbol = natural name := by
  -- The names are the keys, and each slot has the symbol of its name.
  rw [← made.keys, Dictionary.mem_keys, Option.map_eq_some_iff]
  constructor
  · rintro ⟨slot, found, rfl⟩
    exact ⟨⟨slot, found⟩, made.natural found⟩
  · rintro ⟨⟨slot, found⟩, rfl⟩
    exact ⟨slot, found, made.natural found⟩

/-- Of a step of which nothing is wanted there is nothing to show. -/
theorem keeps_any {α : Type} (step : Resolving α) :
    Keeps (fun _ => True) step fun _ _ => True :=
  fun _ _ _ _ _ => ⟨trivial, fun _ _ => trivial⟩

/-- Making the slots of some members makes one for each of them. -/
theorem keeps_slotsFor (natural : String → Option (Symbol β)) {names : List String}
    (distinct : names.Nodup) :
    Keeps (fun _ => True) (memberSlots classes id natural names) fun slots _ =>
      SlotsFor slots natural names := by
  refine (keeps_slots (fun name slot => slot.natural = natural name) names
    fun name => (keeps_any _).imp fun _ _ _ => rfl).imp ?_
  rintro slots _ ⟨pairs, rfl, listed, made⟩
  -- Distinct names are listed in the order in which their slots were made.
  refine ⟨?_, fun {name slot} found => ?_⟩
  · rw [Dictionary.keys_ofList (listed ▸ distinct), listed]
  · exact made _ (Dictionary.mem_of_get?_ofList found)

/-- A class is woven to its dispatch table. -/
theorem keeps_dispatches (climbs : classes.Climbs id path) :
    Keeps (fun _ => True) (shape classes id) fun woven _ => woven.Dispatches classes id := by
  have lists := climbs.lists
  obtain ⟨methods, properties, apart⟩ := List.nodup_append.mp lists.distinct
  unfold shape
  -- Of the targets nothing is wanted here, only of the slots that they go into.
  refine keeps_bind (keeps_any _) fun descriptor _ _ => ?_
  refine keeps_bind (keeps_any _) fun target _ _ => ?_
  refine keeps_bind (keeps_slotsFor _ methods) fun calls _ called => ?_
  refine keeps_bind (keeps_slotsFor _ properties) fun accesses _ accessed => keeps_pure fun _ => ?_
  -- Both uses of a property go through the same slot.
  have access {name : String} {natural : Option (Symbol β)} :
      (accesses.get? name).map Slot.natural = some natural ↔ ∃ property,
        classes.Nearest name id (.property property) ∧ natural = some (.property property) := by
    rw [accessed.map_natural, climbs.mem_memberNames_iff.2]
    constructor
    · rintro ⟨⟨property, nearest⟩, rfl⟩
      exact ⟨property, nearest, climbs.naturalProperty_eq nearest⟩
    · rintro ⟨property, nearest, rfl⟩
      exact ⟨⟨property, nearest⟩, (climbs.naturalProperty_eq nearest).symm⟩
  constructor
  case lists =>
    rw [called.keys, accessed.keys]
    exact lists
  case once =>
    rw [called.keys, accessed.keys]
    exact lists.distinct
  case call =>
    intro name natural
    show (calls.get? name).map Slot.natural = some natural ↔ _
    rw [called.map_natural, climbs.mem_memberNames_iff.1]
    constructor
    · rintro ⟨⟨body, nearest⟩, rfl⟩
      exact ⟨body, nearest, climbs.naturalMethod_eq nearest⟩
    · rintro ⟨body, nearest, rfl⟩
      exact ⟨⟨body, nearest⟩, (climbs.naturalMethod_eq nearest).symm⟩
  case get => exact access
  case set => exact access
  case construction =>
    exact ⟨_, _, climbs.constructors, rfl, Symbol.makesBy_constructor _⟩
  case instances =>
    intro other
    unfold WovenClass.isInstanceOf
    rw [List.contains_iff_mem, climbs.ancestry_eq, climbs.mem_iff]

end Weaver

namespace World

variable {world : World β} {id : ClassId} {path : List ClassId}

/-- Weaving a class that has been woven gives the woven class that is there. -/
theorem weave_of_wovenOf?_eq_some {made : WovenId} (known : world.wovenOf? id = some made) :
    world.weave id = (.ok made, world) := by
  -- A class is woven at most once.
  unfold weave
  rw [known]

/-- A class whose slot has not been woven yet is woven to its dispatch table. -/
theorem exists_weave_of_unwoven (climbs : world.weaver.reflection.classes.Climbs id path)
    (unwoven : world.wovenOf? id = none) :
    ∃ made woven, (world.weave id).1 = .ok made ∧ (world.weave id).2.wovenOf? id = some made ∧
      (world.weave id).2.woven? made = some woven ∧
      woven.Dispatches world.weaver.reflection.classes id := by
  obtain ⟨woven, elements, ran⟩ :=
    Weaver.succeeds_shape climbs world.weaver.reflection.elements
  obtain ⟨_, right⟩ := Weaver.keeps_dispatches climbs trivial ran
  -- The woven class is put behind those that are there, and kept under the class number.
  refine ⟨⟨world.wovenClasses.size⟩, woven, ?_⟩
  unfold weave
  rw [unwoven]
  simp only [ran]
  refine ⟨rfl, Dictionary.get?_insert_self _ _ _, ?_, right woven rfl⟩
  exact Array.getElem?_push_size

/-- Whatever the ancestors of a class are and however they declare names anew, weaving it in a slot
that has not been woven yet gives its dispatch table, and weaving it again gives the same woven
class after whatever has been run meanwhile. -/
theorem weave_dispatches (world : World β)
    (climbs : world.weaver.reflection.classes.Climbs id path) (unwoven : world.wovenOf? id = none) :
    ∃ made woven, (world.weave id).1 = .ok made ∧ (world.weave id).2.woven? made = some woven ∧
      woven.Dispatches world.weaver.reflection.classes id ∧
      ∀ {τ α : Type} (host : Host β τ) (budget : Nat) (action : Action β τ α) {state : τ}
        {result : α} {finish : State β τ},
        (host.run budget action).run ⟨(world.weave id).2, state⟩ = some (result, finish) →
          finish.world.weave id = (.ok made, finish.world) ∧
          finish.world.woven? made = some woven := by
  obtain ⟨made, woven, wove, known, held, dispatches⟩ := exists_weave_of_unwoven climbs unwoven
  refine ⟨made, woven, wove, held, dispatches, ?_⟩
  intro τ α host budget action state result finish ran
  -- No run takes a woven class back.
  have later := host.extends_of_run budget ran
  exact ⟨weave_of_wovenOf?_eq_some (later.wovenOf known), later.woven held⟩

/-- Three classes below each other: the second one makes a property of the method `m` of the first
one and leaves its method `n` without a body. -/
def redeclaring : ClassTable Nat :=
  [ ClassCall.register ⟨"Base", none, some 0, .ofList [("m", some 1), ("n", some 2)],
      .ofList [("p", .ofField "p")]⟩,
    .register ⟨"Middle", some ⟨0⟩, none, .ofList [("n", none)], .ofList [("m", .ofField "m")]⟩,
    .register ⟨"Leaf", some ⟨1⟩, some 3, .ofList [("k", some 4)], .empty⟩ ].foldl
      ClassTable.perform .empty

/-- The last of the three classes has `m` as a property and `n` without a body. -/
theorem weave_dispatches_redeclaring :
    let world := (ofConfig .standard).changeReflection fun reflection =>
      { reflection with classes := redeclaring }
    redeclaring.Climbs ⟨2⟩ [⟨2⟩, ⟨1⟩, ⟨0⟩] ∧ world.wovenOf? ⟨2⟩ = none ∧
    ∃ made woven, (world.weave ⟨2⟩).1 = .ok made ∧ (world.weave ⟨2⟩).2.woven? made = some woven ∧
      woven.Dispatches redeclaring ⟨2⟩ ∧
      (woven.slot? .get "m").map Slot.natural = some (some (.property (.ofField "m"))) ∧
      (woven.slot? .call "n").map Slot.natural = some none := by
  intro world
  have base : redeclaring.Climbs ⟨0⟩ [⟨0⟩] := .root rfl rfl
  have climbs : redeclaring.Climbs ⟨2⟩ [⟨2⟩, ⟨1⟩, ⟨0⟩] := .child rfl rfl (.child rfl rfl base)
  obtain ⟨made, woven, wove, held, dispatches, _⟩ := weave_dispatches world climbs rfl
  refine ⟨climbs, rfl, made, woven, wove, held, dispatches, ?_, ?_⟩
  -- Both names are declared anew by the parent.
  · exact dispatches.get.mpr ⟨_, .inherited rfl rfl rfl (.own rfl rfl), rfl⟩
  · exact dispatches.call.mpr ⟨none, .inherited rfl rfl rfl (.own rfl rfl), rfl⟩

/-- A check that weaves the first class and then rejects the annotation. -/
def weaveAndReject : Action Unit Unit (Except AspectError Unit) := do
  let _ ← Program.request (Request.perform (.weave ⟨0⟩))
  return .error ⟨"class A", "no"⟩

/-- Builds a class whose annotation is checked, and then another one. -/
def buildAfterMarked : Action Unit Unit (Except ExecutionError WovenId) := do
  let _ ← Program.request (Request.perform (.build (Blueprint.marked.withMethod "m" (some ()))))
  Program.request (Request.perform (.build ((Blueprint.named "B").withMethod "k" (some ()))))

/-- A class that is built in the slot of a rejected one, which has been woven while it was checked,
is woven to what the rejected class was woven to. -/
theorem not_dispatches_buildAfterMarked :
    ∃ made woven finish,
      ((Host.checking weaveAndReject).run 2 buildAfterMarked).run ⟨ofConfig .standard, ()⟩ =
        some (made, finish) ∧
      made.toOption.bind finish.world.woven? = some woven ∧
      (∃ path, finish.world.weaver.reflection.classes.Climbs ⟨0⟩ path) ∧
      (finish.world.weave ⟨0⟩).1.toOption = made.toOption ∧
      ¬ woven.Dispatches finish.world.weaver.reflection.classes ⟨0⟩ := by
  -- The class in the slot has another method than the woven class that the build gives.
  have told : (((Host.checking weaveAndReject).run 2 buildAfterMarked).run
      ⟨ofConfig .standard, ()⟩).bind (fun ended =>
        let world := ended.2.world
        (ended.1.toOption.bind world.woven?).bind fun woven =>
          (world.weaver.reflection.classes.get? ⟨0⟩).map fun descriptor =>
            (descriptor.parent, woven.methods.keys, descriptor.methods.keys,
              ended.1.toOption, (world.weave ⟨0⟩).1.toOption)) =
      some (none, ["m"], ["k"], some ⟨0⟩, some ⟨0⟩) := by
    decide +kernel
  obtain ⟨⟨made, finish⟩, ran, told⟩ := Option.bind_eq_some_iff.mp told
  obtain ⟨woven, held, told⟩ := Option.bind_eq_some_iff.mp told
  obtain ⟨descriptor, live, told⟩ := Option.map_eq_some_iff.mp told
  simp only [Prod.mk.injEq] at told
  obtain ⟨top, early, late, built, again⟩ := told
  refine ⟨made, woven, finish, ran, held, ⟨_, .root live top⟩, again.trans built.symm, ?_⟩
  intro dispatches
  -- A class without a parent lists its own methods and no others.
  have lists := dispatches.lists
  generalize listed : ClassTable.MemberNames.mk _ _ = names at lists
  cases lists with
  | root live' _ =>
    obtain rfl := Option.some.inj (live.symm.trans live')
    have same : woven.methods.keys = descriptor.methods.keys :=
      congrArg ClassTable.MemberNames.methods listed
    rw [early, late] at same
    exact absurd same (by decide)
  | child live' below _ =>
    rw [← Option.some.inj (live.symm.trans live'), top] at below
    cases below

end World

end AspectWeaving
