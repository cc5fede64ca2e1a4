/-!
# Outcomes

When work that can fail has succeeded: in a row or over a list, when each step has; with its value
or its error changed, when it has before.
-/

namespace FleetDashboard

variable {ε ζ α β : Type}

/-- Steps in a row succeed exactly when the first does and then the rest with its value. -/
theorem bind_eq_ok_iff {first : Except ε α} {next : α → Except ε β} {result : β} :
    first >>= next = .ok result ↔ ∃ value, first = .ok value ∧ next value = .ok result := by
  cases first with
  | error error => simp [bind, Except.bind]
  | ok value => simp [bind, Except.bind]

/-- A plain value is a success with it. -/
theorem pure_eq_ok_iff {value result : α} :
    (pure value : Except ε α) = .ok result ↔ value = result := by
  simp [pure, Except.pure]

/-- A step whose value is only written differently succeeds exactly when the step does. -/
theorem exists_bind_pure_eq_ok_iff {first : Except ε α} {f : α → β} :
    (∃ result, (first >>= fun value => pure (f value)) = .ok result) ↔
      ∃ value, first = .ok value := by
  simp only [bind_eq_ok_iff, pure_eq_ok_iff]
  constructor
  · rintro ⟨_, value, hvalue, -⟩
    exact ⟨value, hvalue⟩
  · rintro ⟨value, hvalue⟩
    exact ⟨_, value, hvalue, rfl⟩

/-- A step whose value is thrown away succeeds exactly when the step does. -/
theorem discard_eq_ok_iff {outcome : Except ε α} :
    discard outcome = .ok () ↔ ∃ value, outcome = .ok value := by
  cases outcome with
  | error error => exact iff_of_false nofun nofun
  | ok value => exact iff_of_true rfl ⟨value, rfl⟩

/-- Changing the value makes nothing else succeed. -/
theorem map_eq_ok_iff {f : α → β} {outcome : Except ε α} {result : β} :
    outcome.map f = .ok result ↔ ∃ value, outcome = .ok value ∧ f value = result := by
  cases outcome with
  | error error => simp [Except.map]
  | ok value => simp [Except.map]

/-- Changing the value makes nothing else fail. -/
theorem map_eq_error_iff {f : α → β} {outcome : Except ε α} {error : ε} :
    outcome.map f = .error error ↔ outcome = .error error := by
  cases outcome with
  | error other => simp [Except.map]
  | ok value => simp [Except.map]

/-- Changing the error keeps what has succeeded, and makes nothing else succeed. -/
theorem mapError_eq_ok_iff {f : ε → ζ} {outcome : Except ε α} {result : α} :
    outcome.mapError f = .ok result ↔ outcome = .ok result := by
  cases outcome with
  | error error =>
    constructor
    · intro h
      cases h
    · intro h
      cases h
  | ok value =>
    have hmapped : (Except.ok value : Except ε α).mapError f = .ok value := rfl
    rw [hmapped, Except.ok.injEq, Except.ok.injEq]

/-- What has succeeded is there, and nothing else. -/
theorem toOption_eq_some_iff {outcome : Except ε α} {result : α} :
    outcome.toOption = some result ↔ outcome = .ok result := by
  cases outcome with
  | error error => simp [Except.toOption]
  | ok value => simp [Except.toOption]

/-- A list of steps succeeds if each of them does. -/
theorem mapM_eq_ok_map {f : α → Except ε β} {g : α → β} {items : List α}
    (h : ∀ item ∈ items, f item = .ok (g item)) : items.mapM f = .ok (items.map g) := by
  induction items with
  | nil => rfl
  | cons item rest ih =>
    have hrest := ih fun other hother => h other (List.mem_cons_of_mem _ hother)
    rw [List.mapM_cons, h item List.mem_cons_self, hrest]
    rfl

/-- Steps over a list succeed exactly when each of them does. -/
theorem exists_mapM_eq_ok_iff {f : α → Except ε β} {items : List α} :
    (∃ results, items.mapM f = .ok results) ↔ ∀ item ∈ items, ∃ result, f item = .ok result := by
  induction items with
  | nil => exact iff_of_true ⟨[], rfl⟩ nofun
  | cons item rest ih =>
    rw [List.forall_mem_cons, ← ih]
    simp only [List.mapM_cons, bind_eq_ok_iff, pure_eq_ok_iff]
    constructor
    · rintro ⟨_, result, hresult, others, hothers, -⟩
      exact ⟨⟨result, hresult⟩, others, hothers⟩
    · rintro ⟨⟨result, hresult⟩, others, hothers⟩
      exact ⟨_, result, hresult, others, hothers, rfl⟩

/-- So do steps that have no values. -/
theorem forM_eq_ok_iff {f : α → Except ε Unit} {items : List α} :
    items.forM f = .ok () ↔ ∀ item ∈ items, f item = .ok () := by
  induction items with
  | nil => exact iff_of_true rfl nofun
  | cons item rest ih =>
    rw [List.forall_mem_cons, ← ih]
    change (f item >>= fun _ => rest.forM f) = .ok () ↔ _
    rw [bind_eq_ok_iff]
    constructor
    · rintro ⟨⟨⟩, hitem, hrest⟩
      exact ⟨hitem, hrest⟩
    · rintro ⟨hitem, hrest⟩
      exact ⟨(), hitem, hrest⟩

/-- Steps that have succeeded have as many values as there are steps. -/
theorem length_of_mapM_eq_ok {f : α → Except ε β} {items : List α} {results : List β}
    (h : items.mapM f = .ok results) : results.length = items.length := by
  induction items generalizing results with
  | nil =>
    obtain rfl := pure_eq_ok_iff.1 h
    rfl
  | cons item rest ih =>
    simp only [List.mapM_cons, bind_eq_ok_iff, pure_eq_ok_iff] at h
    obtain ⟨result, -, others, hothers, rfl⟩ := h
    rw [List.length_cons, List.length_cons, ih hothers]

/-- The values of steps that have succeeded are those that each of them comes to. -/
theorem eq_map_of_mapM_eq_ok {f : α → Except ε β} {g : α → β} {items : List α} {results : List β}
    (hsteps : ∀ item result, f item = .ok result → result = g item)
    (h : items.mapM f = .ok results) : results = items.map g := by
  induction items generalizing results with
  | nil => exact (pure_eq_ok_iff.1 h).symm
  | cons item rest ih =>
    rw [List.mapM_cons] at h
    obtain ⟨result, hresult, hrest⟩ := bind_eq_ok_iff.1 h
    obtain ⟨others, hothers, hwhole⟩ := bind_eq_ok_iff.1 hrest
    rw [← pure_eq_ok_iff.1 hwhole, hsteps item result hresult, ih hothers, List.map_cons]

end FleetDashboard
