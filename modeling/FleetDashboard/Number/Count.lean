/-!
# Counting in 64 bits

What is counted is counted in integers of 64 bits. A sum that has more of them is no count, and what
is left to do then is up to whoever counts.

* `IsInt64`: an integer has no more than 64 bits.
* `plus?`, `plus?_cases`: the sum of two counts, if it is one.
-/

namespace FleetDashboard

/-- An integer is one of the 64-bit integers. -/
def IsInt64 (n : Int) : Prop :=
  Int64.minValue.toInt ≤ n ∧ n ≤ Int64.maxValue.toInt

instance (n : Int) : Decidable (IsInt64 n) :=
  inferInstanceAs (Decidable (_ ∧ _))

/-- A count is one of them. -/
theorem isInt64_toInt (count : Int64) : IsInt64 count.toInt :=
  ⟨count.minValue_le_toInt, count.toInt_le⟩

/-- The sum of two counts, if it is one of the 64-bit integers. -/
def plus? (count more : Int64) : Option Int64 :=
  let sum := count.toInt + more.toInt
  if IsInt64 sum then some (.ofInt sum) else none

/-- Two counts have a sum, which is exact, or it has more than 64 bits. -/
theorem plus?_cases (count more : Int64) :
    (∃ sum, plus? count more = some sum ∧ sum.toInt = count.toInt + more.toInt) ∨
      (plus? count more = none ∧ ¬ IsInt64 (count.toInt + more.toInt)) := by
  unfold plus?
  by_cases hsum : IsInt64 (count.toInt + more.toInt)
  · refine Or.inl ⟨_, if_pos hsum, ?_⟩
    obtain ⟨hlow, hhigh⟩ := hsum
    rw [Int64.toInt_minValue] at hlow
    rw [Int64.toInt_maxValue] at hhigh
    exact Int64.toInt_ofInt_of_le hlow (by omega)
  · exact Or.inr ⟨if_neg hsum, hsum⟩

/-- Two sums in a row are exact, or one of them has more than 64 bits and nothing is made. -/
theorem plus?_both_cases {α : Type} (make : Int64 → Int64 → α) (count more other others : Int64) :
    let made : Option α := do return make (← plus? count more) (← plus? other others)
    (∃ sum otherSum, made = some (make sum otherSum) ∧
        sum.toInt = count.toInt + more.toInt ∧ otherSum.toInt = other.toInt + others.toInt) ∨
      made = none ∧
        (¬ IsInt64 (count.toInt + more.toInt) ∨ ¬ IsInt64 (other.toInt + others.toInt)) := by
  -- the second sum is only looked at if the first is in the range
  rcases plus?_cases count more with ⟨sum, hsum, hexact⟩ | ⟨hnone, hout⟩
  · rcases plus?_cases other others with ⟨otherSum, hother, hotherExact⟩ | ⟨hnone, hout⟩
    · refine Or.inl ⟨sum, otherSum, ?_, hexact, hotherExact⟩
      rw [hsum, hother]
      rfl
    · refine Or.inr ⟨?_, Or.inr hout⟩
      rw [hsum, hnone]
      rfl
  · refine Or.inr ⟨?_, Or.inl hout⟩
    rw [hnone]
    rfl

end FleetDashboard
