/-! Dictionaries that remember the order in which their keys first came. -/

namespace AspectWeaving

/-- Values under distinct keys, in the order in which the keys were added. -/
structure Dictionary (κ : Type) (α : Type) where
  entries : List (κ × α)
  nodup : (entries.map Prod.fst).Nodup

namespace Dictionary

variable {κ α : Type} [DecidableEq κ]

/-- The dictionary without entries. -/
def empty : Dictionary κ α := ⟨[], by simp⟩

instance : EmptyCollection (Dictionary κ α) := ⟨empty⟩

instance : Inhabited (Dictionary κ α) := ⟨empty⟩

/-- The keys, oldest first. -/
def keys (d : Dictionary κ α) : List κ := d.entries.map Prod.fst

/-- The values, in the order of their keys. -/
def values (d : Dictionary κ α) : List α := d.entries.map Prod.snd

/-- The value under a key. -/
def get? (d : Dictionary κ α) (key : κ) : Option α := d.entries.lookup key

/-- Whether a key has a value. -/
def contains (d : Dictionary κ α) (key : κ) : Bool := (d.get? key).isSome

/-- Replaces the value of a key where it stands, or adds the key at the end. -/
def putEntry (key : κ) (value : α) : List (κ × α) → List (κ × α)
  | [] => [(key, value)]
  | entry :: rest =>
    if entry.1 = key then (key, value) :: rest else entry :: putEntry key value rest

/-- Putting an entry adds its key at the end unless it was there. -/
theorem map_fst_putEntry (key : κ) (value : α) (entries : List (κ × α)) :
    (putEntry key value entries).map Prod.fst =
      if key ∈ entries.map Prod.fst then entries.map Prod.fst
      else entries.map Prod.fst ++ [key] := by
  -- The induction is on the entries; a key that is found stops it, and at the end it is added.
  induction entries with
  | nil => simp [putEntry]
  | cons entry rest ih =>
    by_cases same : entry.1 = key
    · simp [putEntry, same]
    · have other : key ≠ entry.1 := Ne.symm same
      simp only [putEntry, if_neg same, List.map_cons, ih, List.mem_cons, other, false_or]
      split <;> simp

/-- The dictionary with a value put under a key; a known key keeps its place. -/
def insert (d : Dictionary κ α) (key : κ) (value : α) : Dictionary κ α where
  entries := putEntry key value d.entries
  nodup := by
    rw [map_fst_putEntry]
    split
    · exact d.nodup
    · next absent => exact List.nodup_append.mpr ⟨d.nodup, by simp, by grind⟩

/-- The dictionary without a key; the others keep their order. -/
def erase (d : Dictionary κ α) (key : κ) : Dictionary κ α where
  entries := d.entries.filter fun entry => entry.1 ≠ key
  nodup := d.nodup.sublist (List.filter_sublist.map Prod.fst)

/-- The dictionary with the value of a key computed from the one it had. -/
def update (d : Dictionary κ α) (key : κ) (change : Option α → α) : Dictionary κ α :=
  d.insert key (change (d.get? key))

/-- The dictionary with every value changed. -/
def mapValues {γ : Type} (d : Dictionary κ α) (change : α → γ) : Dictionary κ γ where
  entries := d.entries.map fun entry => (entry.1, change entry.2)
  nodup := by simpa [Function.comp_def] using d.nodup

/-- The dictionary with only the values that pass a test. -/
def filterValues (d : Dictionary κ α) (test : α → Bool) : Dictionary κ α where
  entries := d.entries.filter fun entry => test entry.2
  nodup := d.nodup.sublist (List.filter_sublist.map Prod.fst)

/-- The dictionary of pairs put in one after the other. -/
def ofList (pairs : List (κ × α)) : Dictionary κ α :=
  pairs.foldl (fun d pair => d.insert pair.1 pair.2) empty

end Dictionary

end AspectWeaving
