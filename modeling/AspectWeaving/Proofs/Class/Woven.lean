import AspectWeaving.Proofs.Element.Resolution
import AspectWeaving.Weaver

/-! Weaving a class: the targets of its slots are on the class and stay remembered. -/

namespace AspectWeaving

open Resolving Element

variable {β : Type} {classes : ClassTable β} {id : ClassId} {before after : ElementMemo}

/-- A remembered target stays remembered. -/
theorem Element.Found.grow {target : Target} (found : Found id target before)
    (grows : before.Grows after) : Found id target after := ⟨found.1, grows found.2⟩

/-- The slots of a woven class have remembered targets on the class. -/
def WovenClass.Settled (woven : WovenClass β) (id : ClassId) (memo : ElementMemo) : Prop :=
  ∀ {joinpoint member slot}, woven.slot? joinpoint member = some slot → Found id slot.target memo

namespace Weaver

/-- The slots of members have remembered targets on the class. -/
theorem leaves_memberSlots (natural : String → Option (Symbol β)) (names : List String)
    (before : ElementMemo) :
    Leaves classes (memberSlots classes id natural names) before fun slots memo =>
      ∀ {name slot}, slots.get? name = some slot → Found id slot.target memo := by
  have resolves : Leaves classes
      (names.mapM fun name => do
        let target ← (Element.ofMember id name).resolve classes
        return (name, (⟨target, natural name⟩ : Slot β)))
      before fun slots memo => ∀ pair ∈ slots, Found id pair.2.target memo := by
    -- The induction is on the members that are still to be resolved.
    induction names generalizing before with
    | nil =>
      rw [List.mapM_nil]
      exact leaves_pure fun pair member => absurd member List.not_mem_nil
    | cons name rest ih =>
      rw [List.mapM_cons, bind_assoc]
      refine leaves_bind (leaves_resolve _ _) fun target between _ found => ?_
      rw [pure_bind]
      refine leaves_bind (ih between) fun slots memo grows others => leaves_pure ?_
      intro pair member
      rcases List.mem_cons.mp member with rfl | later
      · -- The slots that follow do not make the memo forget this one.
        exact found.grow grows
      · exact others pair later
  unfold memberSlots
  refine leaves_bind resolves fun slots memo _ found => leaves_pure fun {name slot} looked => ?_
  exact found (name, slot) (Dictionary.mem_of_get?_ofList looked)

/-- The slots of members are made of the targets of the members, and listed under their names. -/
theorem keeps_slots {holds : ElementMemo → Prop} (good : String → Slot β → Prop)
    {natural : String → Option (Symbol β)} (names : List String)
    (resolves : ∀ name, Keeps holds ((Element.ofMember id name).resolve classes) fun target _ =>
      good name ⟨target, natural name⟩) :
    Keeps holds (memberSlots classes id natural names) fun slots _ =>
      ∃ pairs, slots = Dictionary.ofList pairs ∧ pairs.map Prod.fst = names ∧
        ∀ pair ∈ pairs, good pair.1 pair.2 := by
  have makes : Keeps holds
      (names.mapM fun name => do
        let target ← (Element.ofMember id name).resolve classes
        return (name, (⟨target, natural name⟩ : Slot β)))
      fun pairs _ => pairs.map Prod.fst = names ∧ ∀ pair ∈ pairs, good pair.1 pair.2 := by
    -- The induction is on the members that are still to be resolved.
    induction names with
    | nil =>
      rw [List.mapM_nil]
      exact keeps_pure fun _ => ⟨rfl, by simp⟩
    | cons name rest ih =>
      rw [List.mapM_cons, bind_assoc]
      refine keeps_bind (resolves name) fun target _ made => ?_
      rw [pure_bind]
      refine keeps_bind ih fun pairs _ others => keeps_pure fun _ => ⟨by simp [others.1], ?_⟩
      exact List.forall_mem_cons.mpr ⟨made, others.2⟩
  unfold memberSlots
  exact keeps_bind makes fun pairs _ made => keeps_pure fun _ => ⟨pairs, rfl, made⟩

/-- Only a live class has a shape, and the targets of its slots are remembered. -/
theorem leaves_shape (before : ElementMemo) :
    Leaves classes (shape classes id) before fun woven memo =>
      (∃ descriptor, classes.get? id = some descriptor) ∧ woven.Settled id memo := by
  unfold shape
  refine leaves_bind (leaves_ofExcept _) fun descriptor _ _ live => ?_
  -- Of each step only matters that later ones do not forget what it has found.
  refine leaves_bind (leaves_resolve _ _) fun target _ _ whole => ?_
  refine leaves_bind (leaves_memberSlots _ _ _) fun methods _ grown found => ?_
  refine leaves_bind (leaves_memberSlots _ _ _) fun properties _ grown' found' => leaves_pure ?_
  refine ⟨⟨descriptor, get?_of_get_eq_ok live⟩, fun {joinpoint member slot} offered => ?_⟩
  -- The cases are the uses that a slot can be asked for.
  cases joinpoint with
  | construction =>
    obtain rfl := Option.some.inj offered
    exact (whole.grow grown).grow grown'
  | call => exact (found offered).grow grown'
  | get => exact found' offered
  | set => exact found' offered

end Weaver

end AspectWeaving
