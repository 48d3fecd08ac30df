import AspectWeaving.Dictionary
import AspectWeaving.Distinct

/-! What looking a key up gives after each change to a dictionary, and what is kept of lists when
repetitions are dropped or when their items are grouped. -/

namespace AspectWeaving

namespace Dictionary

variable {κ α : Type} [DecidableEq κ]

/-- Looking a key up passes over the entries of other keys. -/
theorem lookup_cons_of_ne {key known : κ} (other : key ≠ known) (value : α)
    (rest : List (κ × α)) : ((known, value) :: rest).lookup key = rest.lookup key := by
  -- The first pair does not have the key.
  simp [List.lookup_cons, beq_eq_false_iff_ne.mpr other]

/-- Looking up among entries with distinct keys finds exactly the entry that is there. -/
theorem lookup_eq_some {entries : List (κ × α)} (nodup : (entries.map Prod.fst).Nodup)
    {key : κ} {value : α} : entries.lookup key = some value ↔ (key, value) ∈ entries := by
  -- The induction is on the entries; distinct keys rule out a later entry of the same key.
  induction entries with
  | nil => simp
  | cons entry rest ih =>
    rcases entry with ⟨known, held⟩
    obtain ⟨absent, apart⟩ := List.nodup_cons.mp nodup
    by_cases same : key = known
    · subst known
      have elsewhere : (key, value) ∉ rest := fun member =>
        absent (List.mem_map.mpr ⟨_, member, rfl⟩)
      simp [elsewhere, eq_comm]
    · rw [lookup_cons_of_ne same, ih apart]
      simp [same]

/-- A key has a value exactly if the two are an entry. -/
theorem get?_eq_some {d : Dictionary κ α} {key : κ} {value : α} :
    d.get? key = some value ↔ (key, value) ∈ d.entries := lookup_eq_some d.nodup

/-- A key is listed exactly if it has a value. -/
theorem mem_keys {d : Dictionary κ α} {key : κ} :
    key ∈ d.keys ↔ ∃ value, d.get? key = some value := by
  -- A key is one of an entry, and an entry is what can be found.
  simp [keys, get?_eq_some]

/-- A dictionary contains the keys that it lists. -/
theorem contains_eq_true {d : Dictionary κ α} {key : κ} :
    d.contains key = true ↔ key ∈ d.keys := by
  -- Both sides say that a value is found.
  rw [contains, Option.isSome_iff_exists, mem_keys]

/-- The empty dictionary has no values. -/
@[simp]
theorem get?_empty (key : κ) : (empty : Dictionary κ α).get? key = none := rfl

/-- An entry put in is found under its key, and every other key finds what it found before. -/
theorem lookup_putEntry (key : κ) (value : α) (entries : List (κ × α)) (asked : κ) :
    (putEntry key value entries).lookup asked =
      if asked = key then some value else entries.lookup asked := by
  -- The induction is on the entries, down to the one of the key or to the end.
  induction entries with
  | nil =>
    by_cases same : asked = key
    · simp [putEntry, same]
    · simp [putEntry, same, lookup_cons_of_ne same]
  | cons entry rest ih =>
    rcases entry with ⟨known, held⟩
    by_cases taken : known = key
    · subst known
      by_cases same : asked = key
      · simp [putEntry, same]
      · simp [putEntry, same, lookup_cons_of_ne same]
    · by_cases same : asked = known
      · subst asked
        simp [putEntry, taken]
      · simp only [putEntry, if_neg taken, lookup_cons_of_ne same, ih]

/-- Inserting sets the value of one key and of no other. -/
theorem get?_insert (d : Dictionary κ α) (key : κ) (value : α) (asked : κ) :
    (d.insert key value).get? asked = if asked = key then some value else d.get? asked :=
  -- The entries change as putting an entry changes them.
  lookup_putEntry key value d.entries asked

/-- The key inserted last has the value inserted. -/
@[simp]
theorem get?_insert_self (d : Dictionary κ α) (key : κ) (value : α) :
    (d.insert key value).get? key = some value := by simp [get?_insert]

/-- Inserting adds its key to those that are there. -/
theorem mem_keys_insert {d : Dictionary κ α} {key asked : κ} {value : α} :
    asked ∈ (d.insert key value).keys ↔ asked = key ∨ asked ∈ d.keys := by
  -- A key is there if a value is found for it.
  by_cases same : asked = key <;> simp [mem_keys, get?_insert, same]

/-- Inserting keeps the keys that are there in their order. -/
theorem prefix_keys_insert (d : Dictionary κ α) (key : κ) (value : α) :
    d.keys <+: (d.insert key value).keys := by
  -- A key that is there keeps its place, and a new one comes last.
  unfold keys insert
  rw [map_fst_putEntry]
  split
  · exact List.prefix_rfl
  · exact List.prefix_append _ _

/-- An erased key has no value, and every other key keeps its own. -/
theorem get?_erase (d : Dictionary κ α) (key asked : κ) :
    (d.erase key).get? asked = if asked = key then none else d.get? asked := by
  refine Option.ext fun value => ?_
  rw [get?_eq_some]
  -- The entries of other keys pass the filter.
  by_cases same : asked = key <;> simp [erase, same, get?_eq_some]

/-- Erasing takes one key out. -/
theorem mem_keys_erase {d : Dictionary κ α} {key asked : κ} :
    asked ∈ (d.erase key).keys ↔ asked ∈ d.keys ∧ asked ≠ key := by
  -- A key is there if a value is found for it.
  by_cases same : asked = key <;> simp [mem_keys, get?_erase, same]

/-- Changing every value changes what each key finds. -/
theorem get?_mapValues {γ : Type} (d : Dictionary κ α) (change : α → γ) (key : κ) :
    (d.mapValues change).get? key = (d.get? key).map change := by
  -- Entries keep their keys, and only the values change.
  refine Option.ext fun value => ?_
  simp only [Option.map_eq_some_iff, get?_eq_some, mapValues, List.mem_map, Prod.ext_iff]
  constructor
  · rintro ⟨⟨known, held⟩, member, rfl, changed⟩
    exact ⟨held, member, changed⟩
  · rintro ⟨held, member, changed⟩
    exact ⟨(key, held), member, rfl, changed⟩

/-- Only the values that pass a test are left to be found. -/
theorem get?_filterValues (d : Dictionary κ α) (test : α → Bool) (key : κ) :
    (d.filterValues test).get? key = (d.get? key).filter test := by
  -- An entry stays if its value passes the test.
  refine Option.ext fun value => ?_
  simp [get?_eq_some, filterValues, Option.filter_eq_some_iff]

/-- An update sets the value of one key to what becomes of the one it had. -/
theorem get?_update (d : Dictionary κ α) (key : κ) (change : Option α → α) (asked : κ) :
    (d.update key change).get? asked =
      if asked = key then some (change (d.get? key)) else d.get? asked :=
  -- An update is an insertion of the changed value.
  get?_insert d key _ asked

/-- What is found in a dictionary of pairs is one of them. -/
theorem mem_of_get?_ofList {pairs : List (κ × α)} {key : κ} {value : α}
    (found : (ofList pairs).get? key = some value) : (key, value) ∈ pairs := by
  -- The induction is on the pairs that are still to be put in.
  have put {items : List (κ × α)} {d : Dictionary κ α}
      (looked : (items.foldl (fun d pair => d.insert pair.1 pair.2) d).get? key = some value) :
      (key, value) ∈ items ∨ d.get? key = some value := by
    induction items generalizing d with
    | nil => exact .inr looked
    | cons pair rest ih =>
      rcases ih looked with later | early
      · exact .inl (List.mem_cons_of_mem pair later)
      · rw [get?_insert] at early
        split at early
        · next same =>
          obtain rfl := Option.some.inj early
          exact .inl (by simp [same])
        · exact .inr early
  rcases put found with member | old
  · exact member
  · rw [get?_empty] at old
    contradiction

/-- The keys of a dictionary of pairs are those of the pairs. -/
theorem mem_keys_ofList {pairs : List (κ × α)} {key : κ} :
    key ∈ (ofList pairs).keys ↔ key ∈ pairs.map Prod.fst := by
  -- The pairs are inserted from the left; each one adds its key.
  have put (d : Dictionary κ α) :
      key ∈ (pairs.foldl (fun d pair => d.insert pair.1 pair.2) d).keys ↔
        key ∈ pairs.map Prod.fst ∨ key ∈ d.keys := by
    induction pairs generalizing d with
    | nil => simp
    | cons pair rest ih =>
      rw [List.foldl_cons, ih, mem_keys_insert, List.map_cons, List.mem_cons, or_left_comm,
        or_assoc]
  exact (put empty).trans (or_iff_left (by simp [mem_keys]))

/-- A dictionary of pairs with distinct keys has the keys in their order. -/
theorem keys_ofList {pairs : List (κ × α)} (nodup : (pairs.map Prod.fst).Nodup) :
    (ofList pairs).keys = pairs.map Prod.fst := by
  -- The induction is on the pairs that are still to be put in, none of them under a known key.
  have put {items : List (κ × α)} {d : Dictionary κ α}
      (apart : (d.keys ++ items.map Prod.fst).Nodup) :
      (items.foldl (fun d pair => d.insert pair.1 pair.2) d).keys =
        d.keys ++ items.map Prod.fst := by
    induction items generalizing d with
    | nil => simp
    | cons pair rest ih =>
      have absent : pair.1 ∉ d.keys := fun known =>
        (List.nodup_append.mp apart).2.2 _ known _ List.mem_cons_self rfl
      have added : (d.insert pair.1 pair.2).keys = d.keys ++ [pair.1] :=
        (map_fst_putEntry pair.1 pair.2 d.entries).trans (if_neg absent)
      rw [List.map_cons, List.append_cons, ← added] at apart ⊢
      exact ih apart
  exact put nodup

/-- Of lists kept under distinct keys, those of the keys that are shown, a test that tells one key
from the others leaves the list under that key. -/
theorem filter_flatMap_entries {entries : List (κ × List α)}
    (nodup : (entries.map Prod.fst).Nodup) (shown : κ → Bool) {test : α → Bool} {key : κ}
    (told : ∀ entry ∈ entries, ∀ item ∈ entry.2, test item = true ↔ entry.1 = key) :
    ((entries.filter fun entry => shown entry.1).flatMap Prod.snd).filter test =
      if shown key then (entries.lookup key).getD [] else [] := by
  induction entries with
  | nil => simp
  | cons entry rest ih =>
    obtain ⟨known, items⟩ := entry
    obtain ⟨absent, apart⟩ := List.nodup_cons.mp nodup
    have others := ih apart fun entry later => told entry (List.mem_cons_of_mem _ later)
    have first := told (known, items) List.mem_cons_self
    by_cases same : known = key
    · subst same
      -- All of the first list passes, and nothing of the others.
      have all : items.filter test = items :=
        List.filter_eq_self.mpr fun item member => (first item member).mpr rfl
      have none : rest.lookup known = none := by
        refine Option.eq_none_iff_forall_ne_some.mpr fun held found => absent ?_
        exact List.mem_map.mpr ⟨_, (lookup_eq_some apart).mp found, rfl⟩
      have rest : ((rest.filter fun entry => shown entry.1).flatMap Prod.snd).filter test = [] := by
        rw [others, none]
        simp
      by_cases visible : shown known <;> simp [visible, rest, all]
    · have nothing : items.filter test = [] :=
        List.filter_eq_nil_iff.mpr fun item member passes => same ((first item member).mp passes)
      rw [lookup_cons_of_ne (Ne.symm same), ← others]
      by_cases visible : shown known <;> simp [visible, nothing]

/-- What the values of a dictionary hold grows by what the value of one key grows by. -/
theorem flatMap_values_update {γ : Type} {d : Dictionary κ α} {key : κ} {change : Option α → α}
    {holds : α → List γ} {added : List γ}
    (grows : (holds (change (d.get? key))).Perm (((d.get? key).map holds).getD [] ++ added)) :
    ((d.update key change).values.flatMap holds).Perm (d.values.flatMap holds ++ added) := by
  have put {entries : List (κ × α)} {value : α}
      (grows : (holds value).Perm (((entries.lookup key).map holds).getD [] ++ added)) :
      (((putEntry key value entries).map Prod.snd).flatMap holds).Perm
        ((entries.map Prod.snd).flatMap holds ++ added) := by
    -- The induction is on the entries, down to the one of the key or to the end.
    induction entries with
    | nil => simpa [putEntry] using grows
    | cons entry rest ih =>
      obtain ⟨known, held⟩ := entry
      by_cases same : known = key
      · subst same
        have more : (holds value).Perm (holds held ++ added) := by simpa using grows
        simp only [putEntry, if_true, List.map_cons, List.flatMap_cons, List.append_assoc]
        refine (more.append_right _).trans ?_
        rw [List.append_assoc]
        exact List.perm_append_comm.append_left _
      · rw [lookup_cons_of_ne (Ne.symm same)] at grows
        simp only [putEntry, if_neg same, List.map_cons, List.flatMap_cons, List.append_assoc]
        exact (ih grows).append_left _
  exact put grows

/-- An item put behind those of its key is one item more. -/
theorem flatten_values_update (d : Dictionary κ (List α)) (key : κ) (item : α) :
    ((d.update key fun known => known.getD [] ++ [item]).values.flatten).Perm
      (d.values.flatten ++ [item]) := by
  -- An item is its own list of results here.
  rw [← List.flatMap_id, ← List.flatMap_id]
  exact flatMap_values_update (by simp)

end Dictionary

section Distinct

variable {α κ : Type} [DecidableEq κ]

/-- What is left was there before. -/
theorem mem_of_mem_distinctBy {key : α → κ} {items : List α} {x : α}
    (member : x ∈ distinctBy key items) : x ∈ items := by
  -- Each item kept is the first or one of those that the rest keeps.
  induction items with
  | nil => simp [distinctBy] at member
  | cons y rest ih =>
    rcases List.mem_cons.mp member with same | later
    · exact List.mem_cons.mpr (Or.inl same)
    · exact List.mem_cons.mpr (Or.inr (ih (List.mem_filter.mp later).1))

/-- Where different items have different keys, dropping repetitions loses no item. -/
theorem mem_distinctBy {key : α → κ} {items : List α}
    (apart : ∀ x ∈ items, ∀ y ∈ items, key x = key y → x = y) {x : α} :
    x ∈ distinctBy key items ↔ x ∈ items := by
  refine ⟨mem_of_mem_distinctBy, fun member => ?_⟩
  induction items with
  | nil => simp at member
  | cons y rest ih =>
    rw [distinctBy, List.mem_cons]
    -- An item is dropped only for an earlier one with its key, and that is the item itself.
    by_cases same : key x = key y
    · exact Or.inl (apart x member y List.mem_cons_self same)
    · have later : x ∈ rest := by
        rcases List.mem_cons.mp member with first | later
        · exact absurd (congrArg key first) same
        · exact later
      refine Or.inr (List.mem_filter.mpr ⟨ih ?_ later, by simpa using same⟩)
      exact fun u left v right =>
        apart u (List.mem_cons_of_mem y left) v (List.mem_cons_of_mem y right)

/-- A list without repetitions keeps all its items in their order. -/
theorem distinct_of_nodup {items : List κ} (nodup : items.Nodup) : distinct items = items := by
  -- The induction is on the items: no later one equals the first, so none is left out.
  induction items with
  | nil => rfl
  | cons x rest ih =>
    obtain ⟨absent, apart⟩ := List.nodup_cons.mp nodup
    have others : distinctBy id rest = rest := ih apart
    have kept : rest.filter (fun y => decide (id y ≠ id x)) = rest := by
      refine List.filter_eq_self.mpr fun y member => decide_eq_true ?_
      intro same
      have repeated : y = x := same
      exact absent (repeated ▸ member)
    rw [distinct, distinctBy, others, kept]

/-- Lists in which the items with each key are the same, and in the same order, have the same
items. -/
theorem perm_of_filter_key_eq (key : α → κ) {xs ys : List α}
    (same : ∀ k, xs.filter (fun x => key x = k) = ys.filter (fun y => key y = k)) :
    xs.Perm ys := by
  induction xs generalizing ys with
  | nil =>
    -- An item of the other list would be listed under its own key.
    cases ys with
    | nil => exact .nil
    | cons y rest => simpa using same (key y)
  | cons x rest ih =>
    -- The first item is the first of its key in the other list as well.
    have first : ys.filter (fun y => key y = key x) = x :: rest.filter fun y => key y = key x := by
      rw [← same (key x), List.filter_cons_of_pos (by simp)]
    obtain ⟨front, back, rfl, before, _, after⟩ := List.filter_eq_cons_iff.mp first
    have others : rest.Perm (front ++ back) := by
      refine ih fun k => ?_
      by_cases here : key x = k
      · subst here
        have clean : front.filter (fun y => key y = key x) = [] :=
          List.filter_eq_nil_iff.mpr fun y member => by simpa using before y member
        rw [List.filter_append, clean, List.nil_append, after]
      · have elsewhere := same k
        simpa [List.filter_append, here] using elsewhere
    exact (others.cons x).trans List.perm_middle.symm

/-- What is given for one of several distinct items is given once. -/
theorem flatMap_ite_eq {items : List κ} (nodup : items.Nodup) (item : κ) (given : List α) :
    (items.flatMap fun known => if known = item then given else []) =
      if item ∈ items then given else [] := by
  -- The induction is on the items, of which at most one is the item asked for.
  induction items with
  | nil => rfl
  | cons known rest ih =>
    obtain ⟨absent, apart⟩ := List.nodup_cons.mp nodup
    rw [List.flatMap_cons, ih apart]
    by_cases same : known = item
    · subst same
      simp [absent]
    · simp [same, Ne.symm same]

end Distinct

end AspectWeaving
