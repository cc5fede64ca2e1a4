/-!
# Blank characters

The characters with the White_Space property, and removal of blanks around a text.
-/

namespace FleetDashboard.Text

/-- The characters with the White_Space property. -/
def isBlank (c : Char) : Bool :=
  let n := c.toNat
  (9 ≤ n && n ≤ 13) || n == 0x20 || n == 0x85 || n == 0xA0 || n == 0x1680
    || (0x2000 ≤ n && n ≤ 0x200A) || n == 0x2028 || n == 0x2029 || n == 0x202F || n == 0x205F
    || n == 0x3000

/-- The text without the characters of a class at either end. -/
def trimWhile (drop : Char → Bool) (cs : List Char) : List Char :=
  ((cs.dropWhile drop).reverse.dropWhile drop).reverse

/-- The text without blanks at either end. -/
def trim (cs : List Char) : List Char :=
  trimWhile isBlank cs

/-- Removing characters at either end adds none. -/
theorem mem_of_mem_trimWhile {drop : Char → Bool} {cs : List Char} {c : Char}
    (h : c ∈ trimWhile drop cs) : c ∈ cs := by
  have hback := (List.dropWhile_suffix drop).mem (List.mem_reverse.1 h)
  exact (List.dropWhile_suffix drop).mem (List.mem_reverse.1 hback)

/-- A character of the class in front of a text is removed with the others. -/
theorem trimWhile_cons {drop : Char → Bool} {c : Char} (h : drop c = true) (cs : List Char) :
    trimWhile drop (c :: cs) = trimWhile drop cs := by
  rw [trimWhile, List.dropWhile_cons_of_pos h, trimWhile]

/-- So is one behind it. -/
theorem trimWhile_append_singleton {drop : Char → Bool} {c : Char} (h : drop c = true)
    (cs : List Char) : trimWhile drop (cs ++ [c]) = trimWhile drop cs := by
  unfold trimWhile
  rw [List.dropWhile_append]
  cases hrest : cs.dropWhile drop with
  | nil => simp [h]
  | cons first rest => simp [h]

/-- As many of the other characters are left as there were. -/
theorem count_trimWhile {drop : Char → Bool} {c : Char} (h : drop c = false) (cs : List Char) :
    (trimWhile drop cs).count c = cs.count c := by
  have hdrop : ∀ cs : List Char, (cs.dropWhile drop).count c = cs.count c := by
    intro cs
    induction cs with
    | nil => rfl
    | cons d cs ih =>
      cases hd : drop d with
      | true =>
        have hne : d ≠ c := by
          rintro rfl
          rw [h] at hd
          cases hd
        rw [List.dropWhile_cons_of_pos hd, ih, List.count_cons_of_ne hne]
      | false => rw [List.dropWhile_cons_of_neg (by simp [hd])]
  rw [trimWhile, List.count_reverse, hdrop, List.count_reverse, hdrop]

/-- Nothing is removed from a text that has no character of the class at either end. -/
theorem trimWhile_eq_self {drop : Char → Bool} {cs : List Char}
    (hfirst : ∀ c ∈ cs.head?, drop c = false) (hlast : ∀ c ∈ cs.getLast?, drop c = false) :
    trimWhile drop cs = cs := by
  have front : cs.dropWhile drop = cs := by
    cases cs with
    | nil => rfl
    | cons c cs => simp_all
  have back : cs.reverse.dropWhile drop = cs.reverse := by
    cases h : cs.reverse with
    | nil => rfl
    | cons c rest =>
      have : cs.getLast? = some c := by
        rw [List.getLast?_eq_head?_reverse, h]; rfl
      simp [hlast c (by simp [this])]
  rw [trimWhile, front, back, List.reverse_reverse]

end FleetDashboard.Text
