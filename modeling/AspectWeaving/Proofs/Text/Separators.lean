import Mathlib.Data.List.Basic

/-! Texts put together around a separator come apart again where the separator first stands. -/

namespace AspectWeaving.Text

/-- Two texts that agree up to and beyond their first separator agree on both sides of it. -/
theorem append_separator_inj {separator : Char} {front back front' back' : List Char}
    (clean : separator ∉ front) (clean' : separator ∉ front') :
    front ++ separator :: back = front' ++ separator :: back' ↔
      front = front' ∧ back = back' := by
  refine ⟨fun same => ?_, fun ⟨fronts, backs⟩ => by rw [fronts, backs]⟩
  -- Both fronts are walked together, and neither ends before the other.
  induction front generalizing front' with
  | nil =>
    cases front' with
    | nil => simpa using same
    | cons c rest =>
      have first : separator = c := by simpa using (List.cons.inj same).1
      exact absurd (first ▸ List.mem_cons_self) clean'
  | cons c rest ih =>
    cases front' with
    | nil =>
      have first : c = separator := by simpa using (List.cons.inj same).1
      exact absurd (first ▸ List.mem_cons_self) clean
    | cons d rest' =>
      obtain ⟨first, others⟩ := List.cons.inj same
      obtain ⟨fronts, backs⟩ := ih (fun member => clean (List.mem_cons_of_mem c member))
        (fun member => clean' (List.mem_cons_of_mem d member)) others
      exact ⟨by rw [first, fronts], backs⟩

/-- A separator that only one of two texts holds tells them apart. -/
theorem append_separator_ne {separator : Char} {front back other : List Char}
    (clean : separator ∉ other) : front ++ separator :: back ≠ other :=
  fun same => clean (same ▸ by simp)

/-- The decimal digits of a number hold no character that is not a digit. -/
theorem notMem_toString {c : Char} (other : c.isDigit = false) (n : Nat) :
    c ∉ (toString n).toList := by
  intro member
  -- Every character of the text is one of the ten digits.
  have digit := Nat.isDigit_of_mem_toDigits (b := 10) (n := n) (c := c) (by decide) (by decide)
    (by simpa using member)
  simp [other] at digit

/-- A number can be read off its decimal digits. -/
theorem toString_nat_inj {m n : Nat} : toString m = toString n ↔ m = n := by
  refine ⟨fun same => ?_, fun same => by rw [same]⟩
  -- Equal texts have equal digits, and the digits give the number back.
  have digits : Nat.toDigits 10 m = Nat.toDigits 10 n := by
    simpa using congrArg String.toList same
  rw [← Nat.ofDigitChars_ten_toDigits (n := m), digits, Nat.ofDigitChars_ten_toDigits]

/-- A text that ends in a separator and a number is told apart by what stands before the separator
and by the number. -/
theorem append_number_inj {separator : Char} (other : separator.isDigit = false)
    {front front' : List Char} {m n : Nat} :
    front ++ separator :: (toString m).toList = front' ++ separator :: (toString n).toList ↔
      front = front' ∧ m = n := by
  refine ⟨fun same => ?_, fun ⟨fronts, numbers⟩ => by rw [fronts, numbers]⟩
  -- Read from its end, the text has the digits up to its first separator.
  have clean (number : Nat) : separator ∉ (toString number).toList.reverse := by
    rw [List.mem_reverse]
    exact notMem_toString other number
  have backwards := congrArg List.reverse same
  simp only [List.reverse_append, List.reverse_cons, List.append_assoc, List.singleton_append,
    append_separator_inj (clean _) (clean _)] at backwards
  exact ⟨List.reverse_inj.mp backwards.2,
    toString_nat_inj.mp (String.toList_inj.mp (List.reverse_inj.mp backwards.1))⟩

end AspectWeaving.Text
