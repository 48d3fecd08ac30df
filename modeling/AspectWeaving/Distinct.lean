/-! Lists without repetitions, from which later repetitions have been dropped. -/

namespace AspectWeaving

variable {α κ : Type} [DecidableEq κ]

/-- The items of a list, without those whose key an earlier one has. -/
def distinctBy (key : α → κ) : List α → List α
  | [] => []
  | x :: rest => x :: (distinctBy key rest).filter fun y => key y ≠ key x

/-- The items of a list without later repetitions. -/
def distinct (items : List κ) : List κ := distinctBy id items

/-- No key occurs twice among the items that are left. -/
theorem nodup_distinctBy (key : α → κ) (items : List α) :
    ((distinctBy key items).map key).Nodup := by
  -- The induction is on the items: each one takes those of its key out of the rest.
  induction items with
  | nil => simp [distinctBy]
  | cons x rest ih =>
    rw [distinctBy, List.map_cons, List.nodup_cons]
    exact ⟨by simp, ih.sublist (List.filter_sublist.map key)⟩

/-- No item occurs twice among those that are left. -/
theorem nodup_distinct (items : List κ) : (distinct items).Nodup := by
  -- Items are their own keys here.
  simpa [distinct] using nodup_distinctBy id items

end AspectWeaving
