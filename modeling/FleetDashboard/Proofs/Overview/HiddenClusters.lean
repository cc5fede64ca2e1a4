import FleetDashboard.Proofs.Listing.Related
import FleetDashboard.Proofs.Overview.Members

/-!
# Clusters that the caller may not access

Two control planes list the same clusters, by their names and in the same order, and differ in what
they say of some hidden ones. If the gate allows none of these, both lead to the same summary, at
the same time and with the same calls: the gate is asked about names only, and what it does not
allow is left out before anything else of it is read.

* `ApiObject.AgreesBut`, `Lister.AgreesBut`: clusters, and control planes, that differ in what they
  say of hidden clusters only.
* `memberSummary_congr`: the summary does not depend on hidden clusters.
-/

namespace FleetDashboard

variable {ε : Type} {hidden : String → Prop}

/-! ## Hidden clusters -/

/-- Two clusters of one name, which are the same unless they are hidden. -/
structure ApiObject.AgreesBut (hidden : String → Prop) (cluster other : ApiObject) : Prop where
  /-- Both have a name, and it is the same. -/
  named : ∃ name, cluster.metadata.name = some name ∧ other.metadata.name = some name
  /-- What is not hidden is the same. -/
  shown : ¬ hidden cluster.name → other = cluster

/-- Two control planes that differ in what they say of hidden clusters only. -/
structure Lister.AgreesBut (hidden : String → Prop) (lister other : Lister) : Prop where
  /-- They list the same clusters, and say the same of those that are not hidden. -/
  clusters : ∀ wanted, (lister.list .cluster wanted).Related
    (Reply.Related (List.Forall₂ (ApiObject.AgreesBut hidden))) (other.list .cluster wanted)
  /-- All other kinds are the same. -/
  others : ∀ kind wanted, kind ≠ .cluster → other.list kind wanted = lister.list kind wanted

theorem ApiObject.AgreesBut.name_eq {cluster other : ApiObject}
    (h : cluster.AgreesBut hidden other) : other.name = cluster.name := by
  obtain ⟨name, hname, hother⟩ := h.named
  rw [ApiObject.name, ApiObject.name, hname, hother]

/-- Lists of clusters that agree have the same names. -/
theorem map_name_of_agree {clusters others : List ApiObject}
    (h : List.Forall₂ (ApiObject.AgreesBut hidden) clusters others) :
    others.map ApiObject.name = clusters.map ApiObject.name := by
  induction h with
  | nil => rfl
  | cons hcluster _ ih => rw [List.map_cons, List.map_cons, ih, hcluster.name_eq]

/-- Of lists of clusters that agree the same are left when hidden ones are left out. -/
theorem filter_of_agree {clusters others : List ApiObject} (keeps : String → Bool)
    (h : List.Forall₂ (ApiObject.AgreesBut hidden) clusters others)
    (hkeeps : ∀ name, hidden name → keeps name = false) :
    (others.filter fun cluster => keeps cluster.name) =
      clusters.filter fun cluster => keeps cluster.name := by
  induction h with
  | nil => rfl
  | @cons cluster other _ _ hcluster _ ih =>
    rw [List.filter_cons, List.filter_cons, ih, hcluster.name_eq]
    cases hkept : keeps cluster.name with
    | false => rfl
    | true =>
      -- what is kept is not hidden, so it is the same cluster
      have hshown : ¬ hidden cluster.name := by
        intro hhidden
        rw [hkeeps _ hhidden] at hkept
        cases hkept
      rw [hcluster.shown hshown]

/-- Selections among clusters that agree are over at the same time. -/
theorem AccessGate.filterAccessible_finish_of_agree {clusters others : List ApiObject}
    (h : List.Forall₂ (ApiObject.AgreesBut hidden) clusters others) (gate : AccessGate)
    (user : Option String) (scope : Scope) (now : Nat) :
    (gate.filterAccessible user others ApiObject.name scope now : Run ε _).finish =
      (gate.filterAccessible user clusters ApiObject.name scope now : Run ε _).finish := by
  rw [filterAccessible_finish, filterAccessible_finish, map_name_of_agree h]

/-- Among clusters that agree a selection keeps the same, if no hidden one passes its check. -/
theorem AccessGate.filterAccessible_value_of_agree {clusters others : List ApiObject}
    {gate : AccessGate} {user : Option String} {scope : Scope} {now : Nat}
    (h : List.Forall₂ (ApiObject.AgreesBut hidden) clusters others)
    (hhidden : ∀ name, hidden name →
      (gate.check user name scope now : Run ε _).value ≠ .ok .allow) :
    (gate.filterAccessible user others ApiObject.name scope now : Run ε _).value =
      (gate.filterAccessible user clusters ApiObject.name scope now : Run ε _).value := by
  rw [filterAccessible_value, filterAccessible_value]
  refine filter_of_agree (fun name => lets (gate.check user name scope now : Run ε _).value) h ?_
  intro name hname
  -- what has the name of a hidden cluster is let through for neither list
  rw [← Bool.not_eq_true, lets_iff]
  exact hhidden name hname

/-- The summary of the member clusters does not depend on hidden clusters, if no hidden one passes
the check that begins when the clusters are listed. -/
theorem memberSummary_congr {lister other : Lister} {gate : AccessGate} {user : Option String}
    {scope : Scope} {now : Nat} (h : lister.AgreesBut hidden other)
    (hhidden : ∀ name, hidden name →
      (gate.check user name scope (lister.gather [.cluster] .all scope now).finish :
        Run Call _).value ≠ .ok .allow) :
    memberSummary other gate user scope now = memberSummary lister gate user scope now := by
  -- both listings end at the same time, so the checks begin at the same time
  have hlisted := Lister.gather_finish_of_related (h.clusters .all) scope now
  have houtcome := Lister.related_outcome (h.clusters .all) scope now
  ext1
  · rw [memberSummary_eq, memberSummary_eq, hlisted]
    generalize lister.outcome .all scope now .cluster = outcome at houtcome
    generalize other.outcome .all scope now .cluster = otherOutcome at houtcome
    cases houtcome with
    | error failure => rfl
    | ok hclusters =>
      dsimp only
      rw [AccessGate.filterAccessible_value_of_agree hclusters hhidden]
      -- of the clusters that are listed only the names count
      simp only [MemberSummary.ofClusters, map_name_of_agree hclusters]
  · rw [memberSummary_finish, memberSummary_finish, hlisted]
    generalize lister.outcome .all scope now .cluster = outcome at houtcome
    generalize other.outcome .all scope now .cluster = otherOutcome at houtcome
    cases houtcome with
    | error failure => rfl
    | ok hclusters => exact AccessGate.filterAccessible_finish_of_agree hclusters gate user scope _
  · rw [memberSummary_log, memberSummary_log, Lister.gather_log, Lister.gather_log]

end FleetDashboard
