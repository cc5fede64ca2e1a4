import FleetDashboard.Overview.Argo
import FleetDashboard.Proofs.Listing.Gather

/-!
# Counting Argo CD objects late

A member is counted in full or not at all. The later its count begins, the less of its replies is in
time: a late count is either what an early one is, or nothing. Once the deadline has passed only
those members are counted that answer without any wait.

* `BoundLister.counts`: what a member counts when it is asked at a moment.
* `BoundLister.counts_of_le`: a later count is the earlier one or nothing.
* `BoundLister.AnswersAtOnce`: the replies of a member need no wait.
* `BoundLister.counts_past_deadline_iff`: when a count past the deadline is still the same.
* `ArgoCounts.total_eq_iff`: sums agree only where every summand does.
* `ArgoCounts.ofMember`: what a cluster adds to the sum, by the outcomes of its listings.
-/

namespace FleetDashboard

/-! ## Sums -/

namespace ArgoCounts

/-- The sum over several clusters. -/
def total (counts : List ArgoCounts) : ArgoCounts :=
  counts.foldl add zero

/-- Nothing added changes nothing. -/
@[simp]
theorem zero_add (counts : ArgoCounts) : zero.add counts = counts := by
  simp [add, zero]

/-- What is added to a sum can be added later. -/
theorem foldl_add (first : ArgoCounts) (rest : List ArgoCounts) :
    rest.foldl add first = first.add (total rest) := by
  induction rest generalizing first with
  | nil => simp [total, add, zero]
  | cons next rest ih =>
    rw [total, List.foldl_cons, List.foldl_cons, ih, ih, zero_add]
    simp [add, Nat.add_assoc]

/-- The sum over one cluster more. -/
theorem total_cons (first : ArgoCounts) (rest : List ArgoCounts) :
    total (first :: rest) = first.add (total rest) := by
  rw [total, List.foldl_cons, zero_add, foldl_add]

/-- The order of the summands makes no difference. -/
theorem total_perm {counts counts' : List ArgoCounts} (h : counts.Perm counts') :
    total counts = total counts' := by
  induction h with
  | nil => rfl
  | cons first _ ih => rw [total_cons, total_cons, ih]
  | swap first second rest =>
    simp only [total_cons, add, mk.injEq]
    omega
  | trans _ _ ih ih' => exact ih.trans ih'

/-- Clusters that are not there add nothing. -/
theorem total_filterMap {α β : Type} (items : List α) (f : α → Option β) (counts : β → ArgoCounts) :
    total ((items.filterMap f).map counts) =
      total (items.map fun item => ((f item).map counts).getD zero) := by
  induction items with
  | nil => rfl
  | cons item rest ih =>
    rw [List.map_cons, total_cons, ← ih]
    cases hitem : f item with
    | none => simp [hitem]
    | some found => simp [hitem, total_cons]

/-- No number is greater than the other's. -/
def Le (a b : ArgoCounts) : Prop :=
  a.applications ≤ b.applications ∧ a.projects ≤ b.projects

/-- Sums over smaller numbers are smaller. -/
theorem total_le {α : Type} {items : List α} {less more : α → ArgoCounts}
    (h : ∀ item ∈ items, (less item).Le (more item)) :
    (total (items.map less)).Le (total (items.map more)) := by
  induction items with
  | nil => exact ⟨Nat.le_refl _, Nat.le_refl _⟩
  | cons item rest ih =>
    obtain ⟨happlications, hprojects⟩ := h item List.mem_cons_self
    obtain ⟨hrestApplications, hrestProjects⟩ :=
      ih fun other hother => h other (List.mem_cons_of_mem _ hother)
    rw [List.map_cons, List.map_cons, total_cons, total_cons]
    exact ⟨Nat.add_le_add happlications hrestApplications, Nat.add_le_add hprojects hrestProjects⟩

/-- Sums over smaller numbers agree only where every summand does. -/
theorem total_eq_iff {α : Type} {items : List α} {less more : α → ArgoCounts}
    (h : ∀ item ∈ items, (less item).Le (more item)) :
    total (items.map less) = total (items.map more) ↔ ∀ item ∈ items, less item = more item := by
  constructor
  · intro htotal
    induction items with
    | nil =>
      intro item hitem
      cases hitem
    | cons item rest ih =>
      have hrest : ∀ other ∈ rest, (less other).Le (more other) :=
        fun other hother => h other (List.mem_cons_of_mem _ hother)
      obtain ⟨happlications, hprojects⟩ := h item List.mem_cons_self
      obtain ⟨hrestApplications, hrestProjects⟩ := total_le hrest
      rw [List.map_cons, List.map_cons, total_cons, total_cons] at htotal
      simp only [add, ArgoCounts.mk.injEq] at htotal
      -- two sums of two agree while neither summand exceeds its counterpart, so both agree
      have hitem : less item = more item := by
        rw [ArgoCounts.mk.injEq]
        omega
      have htail : total (rest.map less) = total (rest.map more) := by
        rw [ArgoCounts.mk.injEq]
        omega
      intro other hother
      rcases List.mem_cons.1 hother with rfl | hother
      · exact hitem
      · exact ih hrest htail other hother
  · intro hsame
    rw [List.map_congr_left hsame]

/-- One critical failure makes a cluster count nothing. -/
theorem ofGathered_of_isCritical {outcome : ResourceKind → ListOutcome} {kind : ResourceKind}
    (hkind : kind ∈ kinds) (hcritical : (outcome kind).IsCritical) :
    ofGathered (kinds.map fun kind => (kind, outcome kind)) = zero := by
  obtain ⟨failure, hfailure⟩ :=
    (Gathered.drains_map kinds outcome).aborts.2 ⟨kind, hkind, hcritical⟩
  rw [ofGathered, hfailure]

end ArgoCounts

/-! ## Late replies -/

namespace Lister

variable {lister : Lister} {wanted : Namespaces} {scope : Scope} {now later : Nat}
  {kind : ResourceKind}

/-- A late call comes to what an early one does, or to a critical failure. -/
theorem outcome_of_le (lister : Lister) (wanted : Namespaces) (scope : Scope) (kind : ResourceKind)
    (hle : now ≤ later) :
    lister.outcome wanted scope later kind = lister.outcome wanted scope now kind ∨
      (lister.outcome wanted scope later kind).IsCritical := by
  unfold outcome
  cases lister.list kind wanted with
  | never => exact Or.inr (ListOutcome.isCritical_ofTimely_none kind _)
  | after ms reply =>
    by_cases hlate : scope.InTime later ms
    · have hearly := hlate.of_le hle
      simp only [Wait.timely?, hlate, hearly, ↓reduceIte]
      exact Or.inl (by cases reply <;> rfl)
    · simp only [Wait.timely?, hlate, ↓reduceIte]
      exact Or.inr (ListOutcome.isCritical_ofTimely_none kind _)

/-- Past the deadline a reply that has to be waited for is a critical failure. -/
theorem isCritical_outcome_past_deadline (hdeadline : scope.deadline ≤ later)
    (hwaits : ∀ reply, lister.list kind wanted ≠ .after 0 reply) :
    (lister.outcome wanted scope later kind).IsCritical := by
  unfold outcome
  cases hlist : lister.list kind wanted with
  | never => exact ListOutcome.isCritical_ofTimely_none kind _
  | after ms reply =>
    have hlate : ¬ scope.InTime later ms := by
      rintro ⟨-, rfl | ⟨hin, -⟩⟩
      · exact hwaits reply hlist
      · have hzero : ms = 0 := by omega
        subst hzero
        exact hwaits reply hlist
    simp only [Wait.timely?, hlate, ↓reduceIte]
    exact ListOutcome.isCritical_ofTimely_none kind _

/-- A reply that needs no wait comes to the same whenever the scope is not cancelled. -/
theorem outcome_of_at_once {reply : Reply (List ApiObject)}
    (hlist : lister.list kind wanted = .after 0 reply) (hnow : scope.isCancelled now = false)
    (hlater : scope.isCancelled later = false) :
    lister.outcome wanted scope later kind = lister.outcome wanted scope now kind := by
  have hin : ∀ moment, scope.isCancelled moment = false → scope.InTime moment 0 :=
    fun moment hlive => ⟨hlive, Or.inl rfl⟩
  unfold outcome
  rw [hlist]
  simp only [Wait.timely?, hin now hnow, hin later hlater, ↓reduceIte]
  cases reply <;> rfl

end Lister

namespace BoundLister

variable {member : BoundLister} {scope : Scope} {now later : Nat}

/-- What a member counts when it is asked at a moment. -/
def counts (member : BoundLister) (scope : Scope) (now : Nat) : ArgoCounts :=
  (member.argoCounts scope now).value

/-- A member counts what its outcomes amount to. -/
theorem counts_eq (member : BoundLister) (scope : Scope) (now : Nat) :
    member.counts scope now = .ofGathered
      (ArgoCounts.kinds.map fun kind => (kind, member.lister.outcome .all scope now kind)) := by
  simp only [counts, argoCounts, run, Task.bind_eq_andThen, Task.pure_eq_done, Task.andThen_value,
    Task.mapLog_value, Task.done_run, Lister.gather_value]

/-- A later count is what an earlier one is, or nothing. -/
theorem counts_of_le (member : BoundLister) (scope : Scope) (hle : now ≤ later) :
    member.counts scope later = member.counts scope now ∨ member.counts scope later = .zero := by
  rw [counts_eq, counts_eq]
  by_cases hcritical : ∃ kind ∈ ArgoCounts.kinds,
      (member.lister.outcome .all scope later kind).IsCritical
  · obtain ⟨kind, hkind, hcritical⟩ := hcritical
    exact Or.inr (ArgoCounts.ofGathered_of_isCritical hkind hcritical)
  · have hsame : ∀ kind ∈ ArgoCounts.kinds,
        (kind, member.lister.outcome .all scope later kind) =
          (kind, member.lister.outcome .all scope now kind) := by
      intro kind hkind
      rcases member.lister.outcome_of_le .all scope kind hle with h | h
      · rw [h]
      · exact absurd ⟨kind, hkind, h⟩ hcritical
    exact Or.inl (by rw [List.map_congr_left hsame])

/-- The replies that are counted need no wait. -/
def AnswersAtOnce (member : BoundLister) : Prop :=
  ∀ kind ∈ ArgoCounts.kinds, ∃ reply, member.lister.list kind .all = .after 0 reply

/-- A member that counted nothing, or whose replies need no wait, counts the same later on while the
scope is not cancelled. -/
theorem counts_eq_of_zero_or_answersAtOnce (hle : now ≤ later)
    (hlive : scope.isCancelled later = false)
    (h : member.counts scope now = .zero ∨ member.AnswersAtOnce) :
    member.counts scope later = member.counts scope now := by
  rcases h with hzero | honce
  · rcases member.counts_of_le scope hle with hsame | hnothing
    · exact hsame
    · exact hnothing.trans hzero.symm
  · have hnow := Scope.isCancelled_eq_false_of_le hlive hle
    have hsame : ∀ kind ∈ ArgoCounts.kinds,
        (kind, member.lister.outcome .all scope later kind) =
          (kind, member.lister.outcome .all scope now kind) := by
      intro kind hkind
      obtain ⟨reply, hreply⟩ := honce kind hkind
      rw [Lister.outcome_of_at_once hreply hnow hlive]
    rw [counts_eq, counts_eq, List.map_congr_left hsame]

/-- Past the deadline of a scope that is not cancelled, a member counts what it did before exactly
if that was nothing, or if its replies need no wait. -/
theorem counts_past_deadline_iff (hle : now ≤ later) (hdeadline : scope.deadline ≤ later)
    (hlive : scope.isCancelled later = false) :
    member.counts scope later = member.counts scope now ↔
      member.counts scope now = .zero ∨ member.AnswersAtOnce := by
  constructor
  · intro hsame
    by_cases honce : member.AnswersAtOnce
    · exact Or.inr honce
    · simp only [AnswersAtOnce, Classical.not_forall, not_exists] at honce
      obtain ⟨kind, hkind, hwaits⟩ := honce
      have hcritical := Lister.isCritical_outcome_past_deadline hdeadline hwaits
      have hzero : member.counts scope later = .zero := by
        rw [counts_eq]
        exact ArgoCounts.ofGathered_of_isCritical hkind hcritical
      exact Or.inl (hsame.symm.trans hzero)
  · exact counts_eq_of_zero_or_answersAtOnce hle hlive

/-- A later count is not greater. -/
theorem counts_le (member : BoundLister) (scope : Scope) (hle : now ≤ later) :
    (member.counts scope later).Le (member.counts scope now) := by
  rcases member.counts_of_le scope hle with h | h
  · rw [h]
    exact ⟨Nat.le_refl _, Nat.le_refl _⟩
  · rw [h]
    exact ⟨Nat.zero_le _, Nat.zero_le _⟩

end BoundLister

/-- What a cluster adds to the sum when it is asked at a moment, if it can be reached: the objects
of each kind, none of a kind that failed, and nothing at all if one failed critically. -/
def ArgoCounts.ofMember (member : Except ClientError BoundLister) (scope : Scope) (now : Nat) :
    ArgoCounts :=
  match member with
  | .error _ => zero
  | .ok bound =>
    let outcome := bound.lister.outcome .all scope now
    if ∃ kind ∈ kinds, (outcome kind).IsCritical then zero
    else
      { applications := (outcome .argoApplication).objects.length
        projects := (outcome .argoProject).objects.length }

/-- A cluster that can be reached adds what it counts. -/
theorem ArgoCounts.ofMember_ok (member : BoundLister) (scope : Scope) (now : Nat) :
    ofMember (.ok member) scope now = member.counts scope now := by
  rw [BoundLister.counts_eq, ofMember]
  split
  next hcritical =>
    obtain ⟨kind, hkind, hcritical⟩ := hcritical
    exact (ofGathered_of_isCritical hkind hcritical).symm
  next hmild =>
    rcases Gathered.drain_map_cases kinds (member.lister.outcome .all scope now) with
      ⟨-, -, hcritical⟩ | ⟨lists, hdrain, -, hobjects, -⟩
    · exact absurd hcritical hmild
    · rw [ofGathered, hdrain, ← hobjects .argoApplication (by decide),
        ← hobjects .argoProject (by decide)]
      rfl

/-- The sum over several clusters is that of what each counts. -/
theorem argoCounts_value (members : List BoundLister) (scope : Scope) (now : Nat) :
    (argoCounts members scope now).value = .total (members.map fun member =>
      member.counts scope now) := by
  simp only [argoCounts, Task.bind_eq_andThen, Task.pure_eq_done, Task.andThen_value,
    Task.done_run, Task.all_value, List.map_map]
  rfl

/-- The calls that count one cluster go to that cluster, one for each kind that is counted, unless
the scope is cancelled. -/
theorem BoundLister.argoCounts_log (member : BoundLister) (scope : Scope) (now : Nat) :
    (member.argoCounts scope now).log =
      if scope.isCancelled now then []
      else ArgoCounts.kinds.map fun kind => ⟨member.target, .list kind .all⟩ := by
  simp only [argoCounts, run, Task.bind_eq_andThen, Task.pure_eq_done, Task.andThen_log,
    Task.mapLog_log, Task.done_run, Lister.gather_log, List.append_nil]
  split <;> rfl

/-- The calls that count several clusters go to those clusters. -/
theorem mem_argoCounts_log {members : List BoundLister} {scope : Scope} {now : Nat}
    {call : TargetCall} :
    call ∈ (argoCounts members scope now).log ↔
      scope.isCancelled now = false ∧
        ∃ member ∈ members, ∃ kind ∈ ArgoCounts.kinds, call = ⟨member.target, .list kind .all⟩ := by
  simp only [argoCounts, Task.bind_eq_andThen, Task.pure_eq_done, Task.andThen_log, Task.done_run,
    Task.all_log, List.append_nil, List.mem_flatMap, List.flatMap_map,
    BoundLister.argoCounts_log]
  cases hlive : scope.isCancelled now with
  | true => simp
  | false =>
    simp only [Bool.false_eq_true, ↓reduceIte, List.mem_map, true_and]
    constructor
    · rintro ⟨member, hmember, kind, hkind, rfl⟩
      exact ⟨member, hmember, kind, hkind, rfl⟩
    · rintro ⟨member, hmember, kind, hkind, rfl⟩
      exact ⟨member, hmember, kind, hkind, rfl⟩

end FleetDashboard
