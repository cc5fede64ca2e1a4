import FleetDashboard.Proofs.Overview.Totals

/-!
# How far the overview counts

Nodes and pods are counted in integers of 64 bits, and what the clusters report is added up without
a bound. So one report can be too much for the counts of all clusters, and then there is no summary
at all. All counts are exact, with no addition on the way to them leaving the range, as long as the
exact sums are in the range after each cluster.

* `CountsExactly`: no addition leaves the range, and the totals are the exact sums.
* `countsExactly_iff`: when that is so, and that there is nothing otherwise.
* `not_countsExactly_of_hugeReport`: two clusters whose nodes cannot be counted.
-/

namespace FleetDashboard

namespace WholeCount

variable (count : WholeCount) (clusters : List ApiObject)

/-- The exact sum of reports that are not negative lies between zero and that of more of them. -/
theorem exact_le_exact {done : List ApiObject} (hdone : done <+: clusters)
    (h : ∀ cluster ∈ clusters, 0 ≤ count.of cluster.capacity) :
    0 ≤ count.exact done ∧ count.exact done ≤ count.exact clusters := by
  obtain ⟨rest, rfl⟩ := hdone
  have hsum : ∀ part : List ApiObject, (∀ cluster ∈ part, cluster ∈ done ++ rest) →
      0 ≤ count.exact part := by
    intro part hpart
    refine List.sum_nonneg fun report hreport => ?_
    obtain ⟨cluster, hcluster, rfl⟩ := List.mem_map.1 hreport
    exact h cluster (hpart cluster hcluster)
  have hdone := hsum done fun _ => List.mem_append_left _
  have hrest := hsum rest fun _ => List.mem_append_right _
  have hsplit : count.exact (done ++ rest) = count.exact done + count.exact rest := by
    simp [exact]
  omega

end WholeCount

/-- Clusters none of which reports a negative number can be counted if the whole sums are in the
range. -/
theorem countable_iff_of_nonneg {clusters : List ApiObject}
    (h : ∀ cluster ∈ clusters, ∀ count : WholeCount, 0 ≤ count.of cluster.capacity) :
    Countable clusters ↔ ∀ count : WholeCount, IsInt64 (count.exact clusters) := by
  constructor
  · intro hcountable
    exact hcountable clusters List.prefix_rfl
  · -- a sum of fewer reports is not larger than the whole one, and not negative either
    intro hwhole done hdone count
    obtain ⟨hlow, hhigh⟩ := count.exact_le_exact clusters hdone fun cluster hcluster =>
      h cluster hcluster count
    refine ⟨le_trans ?_ hlow, hhigh.trans (hwhole count).2⟩
    simp

section

variable (listed clusters : List ApiObject) (warnings : List ServerFailure)

/-- Clusters are counted exactly when they are summed up one after the other. -/
structure CountsExactly : Prop where
  /-- What comes before a cluster is summed up, and adding what the cluster reports does not leave
  the range. -/
  inRange : ∀ done cluster rest, clusters = done ++ cluster :: rest →
    ∃ summary, MemberSummary.ofClusters listed warnings done = some summary ∧
      ∀ count : WholeCount, IsInt64 (count.of summary.totals + count.of cluster.capacity)
  /-- There is a summary, and its totals are the exact sums. -/
  exact : ∃ summary, MemberSummary.ofClusters listed warnings clusters = some summary ∧
    ∀ count : WholeCount, count.of summary.totals = count.exact clusters

/-- That is so exactly if they can be counted. -/
theorem countsExactly_iff_countable :
    CountsExactly listed clusters warnings ↔ Countable clusters := by
  constructor
  · intro h
    obtain ⟨summary, hsummary, -⟩ := h.exact
    exact (MemberSummary.exists_ofClusters_iff listed warnings).1 ⟨summary, hsummary⟩
  · intro hcountable
    constructor
    · -- what comes before a cluster can be counted as well, and its totals are the exact sums
      rintro done cluster rest rfl
      have hdone : Countable done := fun part hpart =>
        hcountable part (hpart.trans (List.prefix_append _ _))
      obtain ⟨summary, hsummary⟩ :=
        (MemberSummary.exists_ofClusters_iff listed warnings).2 hdone
      have hsums := MemberSummary.sums_of_ofClusters hsummary
      refine ⟨summary, hsummary, fun count => ?_⟩
      rw [hsums.of_totals, ← WholeCount.exact_concat]
      exact hcountable _ ⟨rest, by simp⟩ count
    · obtain ⟨summary, hsummary⟩ :=
        (MemberSummary.exists_ofClusters_iff listed warnings).2 hcountable
      exact ⟨summary, hsummary, (MemberSummary.sums_of_ofClusters hsummary).of_totals⟩

/-- Clusters are counted exactly as long as what they report, up to each of them, adds up to 64-bit
integers; if no report is negative, the whole sums decide. Where they are not, the first addition
that leaves the range ends the summing up, and there are no totals at all. -/
theorem countsExactly_iff :
    (CountsExactly listed clusters warnings ↔
      ∀ done, done <+: clusters → ∀ count : WholeCount, IsInt64 (count.exact done)) ∧
    ((∀ cluster ∈ clusters, ∀ count : WholeCount, 0 ≤ count.of cluster.capacity) →
      (CountsExactly listed clusters warnings ↔
        ∀ count : WholeCount, IsInt64 (count.exact clusters))) ∧
    (¬ CountsExactly listed clusters warnings ↔
      MemberSummary.ofClusters listed warnings clusters = none) := by
  refine ⟨countsExactly_iff_countable listed clusters warnings, fun hreports => ?_, ?_⟩
  · rw [countsExactly_iff_countable, countable_iff_of_nonneg hreports]
  · rw [countsExactly_iff_countable, MemberSummary.ofClusters_eq_none_iff]

end

/-- A cluster that reports so many nodes, and nothing else. -/
def ApiObject.reportingNodes (name : String) (nodes : Int) : ApiObject where
  typeFields := []
  metadata := { Metadata.empty with name := some name }
  content := [("status", .obj [("nodeSummary", .obj [("totalNum", .int nodes)])])]

/-- Two clusters, of which one reports as many nodes as a 64-bit integer can tell. -/
def hugeReport : List ApiObject :=
  [.reportingNodes "huge" 9223372036854775807, .reportingNodes "member1" 3]

/-- Up to the first of them all is well; with the three nodes of the next one the sum leaves the
range, and there is nothing. -/
theorem not_countsExactly_of_hugeReport :
    ¬ CountsExactly hugeReport hugeReport [] ∧
      (MemberSummary.ofClusters hugeReport [] (hugeReport.take 1)).isSome ∧
      MemberSummary.ofClusters hugeReport [] hugeReport = none ∧
      WholeCount.nodes.exact hugeReport = 9223372036854775810 := by
  have hnone : MemberSummary.ofClusters hugeReport [] hugeReport = none := by
    rw [← Option.isNone_iff_eq_none]
    decide +kernel
  refine ⟨fun h => ?_, by decide +kernel, hnone, by decide +kernel⟩
  obtain ⟨summary, hsummary, -⟩ := h.exact
  rw [hnone] at hsummary
  cases hsummary

end FleetDashboard
