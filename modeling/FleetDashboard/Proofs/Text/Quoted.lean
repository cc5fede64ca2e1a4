import FleetDashboard.Text.Quoted

/-!
# What stands in quoted text

Whatever a text holds, its quoted form holds characters only that are shown. Of these the quote and
the backslash alone are written differently in it, with one more backslash each. So a text that is
shown can be told from the backslashes in its quoted form to be written as it is, or not.

* `escape_eq_self_iff`: which characters are written as they are.
* `isShown_of_mem_quoteChars`: quoted text is shown.
* `escape_of_isShown`: how characters that are shown are written.
* `count_quoteBody`: how many backslashes quoted text has.
-/

namespace FleetDashboard.Text

/-- A character is written as it is exactly when it is plain. -/
theorem escape_eq_self_iff {c : Char} : escape c = [c] ↔ isPlain c = true := by
  constructor
  · intro hself
    cases hplain : isPlain c with
    | true => rfl
    | false =>
      obtain ⟨rest, hescape⟩ := exists_escape_of_not_isPlain hplain
      -- only a backslash could be its own escape, and that one is written twice
      rw [hself, List.cons.injEq] at hescape
      obtain ⟨rfl, -⟩ := hescape
      exact absurd hself (by decide)
  · exact escape_of_isPlain

/-- Hexadecimal digits are shown. -/
theorem isShown_of_mem_toDigits {c : Char} {n : Nat} (h : c ∈ Nat.toDigits 16 n) :
    isShown c = true := by
  have hdigit : ∀ d, d < 16 → isShown (Nat.digitChar d) = true := by decide
  induction n using Nat.strongRecOn with
  | ind n ih =>
    rw [Nat.toDigits_eq_if (by decide)] at h
    split at h
    next hsmall =>
      rw [List.mem_singleton] at h
      exact h ▸ hdigit n hsmall
    next hlarge =>
      rcases List.mem_append.1 h with hlead | hlast
      · exact ih (n / 16) (by omega) hlead
      · rw [List.mem_singleton] at hlast
        exact hlast ▸ hdigit (n % 16) (Nat.mod_lt n (by decide))

/-- The letter of a two-character escape is shown. -/
theorem isShown_of_shortEscape? {c e : Char} (h : shortEscape? c = some e) : isShown e = true := by
  have hletters : ['0', 't', 'r', 'n', '"', '\\'].all isShown = true := by decide
  refine List.all_eq_true.1 hletters e ?_
  unfold shortEscape? at h
  grind

/-- Whatever stands in an escape is shown. -/
theorem isShown_of_mem_escape {c d : Char} (h : d ∈ escape c) : isShown d = true := by
  unfold escape at h
  cases hshort : shortEscape? c with
  | some e =>
    rw [hshort] at h
    simp only [List.mem_cons, List.not_mem_nil, or_false] at h
    rcases h with rfl | rfl
    · decide
    · exact isShown_of_shortEscape? hshort
  | none =>
    rw [hshort] at h
    simp only at h
    split at h
    next hshown =>
      rw [List.mem_singleton] at h
      exact h ▸ hshown
    next =>
      simp only [codeEscape, List.mem_append, List.mem_cons, List.not_mem_nil, or_false] at h
      rcases h with ((rfl | rfl | rfl) | hdigit) | rfl
      · decide
      · decide
      · decide
      · exact isShown_of_mem_toDigits hdigit
      · decide

/-- Whatever stands in quoted text is shown. -/
theorem isShown_of_mem_quoteChars {cs : List Char} {d : Char} (h : d ∈ quoteChars cs) :
    isShown d = true := by
  simp only [quoteChars, quoteBody, List.cons_append, List.mem_cons, List.mem_append,
    List.mem_flatMap, List.not_mem_nil, or_false] at h
  rcases h with rfl | ⟨c, -, hd⟩ | rfl
  · decide
  · exact isShown_of_mem_escape hd
  · decide

/-- Of the characters that are shown, the quote and the backslash alone are escaped. -/
theorem escape_of_isShown {c : Char} (h : isShown c = true) :
    escape c = if c = '"' ∨ c = '\\' then ['\\', c] else [c] := by
  unfold escape shortEscape?
  by_cases hquote : c = '"'
  · subst hquote
    rfl
  by_cases hback : c = '\\'
  · subst hback
    rfl
  -- the other characters with an escape of two characters are not shown
  have hhidden : ∀ d : Char, isShown d = false → c ≠ d := by
    rintro d hd rfl
    rw [h] at hd
    cases hd
  simp [hquote, hback, h, hhidden '\x00' (by decide), hhidden '\t' (by decide),
    hhidden '\r' (by decide), hhidden '\n' (by decide)]

/-- Quoting text that is shown adds nothing but backslashes. -/
theorem mem_or_eq_of_mem_quoteBody {cs : List Char} {d : Char}
    (hshown : ∀ c ∈ cs, isShown c = true) (h : d ∈ quoteBody cs) : d ∈ cs ∨ d = '\\' := by
  obtain ⟨c, hc, hd⟩ := List.mem_flatMap.1 h
  rw [escape_of_isShown (hshown c hc)] at hd
  split at hd
  · simp only [List.mem_cons, List.not_mem_nil, or_false] at hd
    rcases hd with rfl | rfl
    · exact Or.inr rfl
    · exact Or.inl hc
  · rw [List.mem_singleton] at hd
    exact Or.inl (hd ▸ hc)

/-- Quoting text that is shown adds one backslash for each quote and each backslash. -/
theorem count_quoteBody {cs : List Char} (hshown : ∀ c ∈ cs, isShown c = true) :
    (quoteBody cs).count '\\' = cs.count '\\' + (cs.count '\\' + cs.count '"') := by
  induction cs with
  | nil => rfl
  | cons c cs ih =>
    have hrest := ih fun d hd => hshown d (List.mem_cons_of_mem _ hd)
    have hbody : quoteBody (c :: cs) = escape c ++ quoteBody cs := rfl
    rw [hbody, List.count_append, hrest, escape_of_isShown (hshown c List.mem_cons_self)]
    by_cases hquote : c = '"'
    · subst hquote
      simp
      omega
    by_cases hback : c = '\\'
    · subst hback
      simp
      omega
    simp [hquote, hback]

end FleetDashboard.Text
