import Mathlib.Order.Basic
import FleetDashboard.Time.ScopeTree

/-!
# What a cancellation reaches

A scope is cancelled when the node that it listens to, or one that this node stems from, is. Nodes
are numbered after their parents, so a node stems from older ones only: cancelling a new scope never
reaches one that was there before it, and a new scope is cancelled exactly when its parent is.

* `ScopeTree.WellFormed`, `ScopeTree.Reachable`: parents are older in all scopes of a request.
* `ScopeTree.isNodeCancelled_iff`: the bounded search finds every cancelled node above.
* `ScopeTree.Reaches`: cancelling one scope cancels another one.
* `ScopeTimeline.isCancelled_iff`: a scope is cancelled from the start, or by an earlier cancellation
  that reaches it.
* `ScopeTimeline.isCancelled_scope`: what bounds the work within a scope is cancelled when it is.
* `ScopeTimeline.isCancelled_child_of_lt`, `ScopeTimeline.isCancelled_child_self`,
  `ScopeTimeline.isCancelled_cancelAt_child`: a new scope, and its cancellation, leave all others
  alone.
-/

namespace FleetDashboard

namespace ScopeTree

variable {tree : ScopeTree} {scope other cause n m p k : Nat}

/-! ## Older nodes -/

/-- The parent of a node. -/
def parent? (tree : ScopeTree) (n : Nat) : Option Nat :=
  tree.nodes[n]?.bind (·.parent)

/-- Every node is younger than its parent, and scopes listen to nodes that there are. -/
structure WellFormed (tree : ScopeTree) : Prop where
  /-- A parent is older. -/
  older : ∀ {n p}, tree.parent? n = some p → p < n
  /-- A scope listens to a node. -/
  listens : ∀ {scope n}, tree.node? scope = some n → n < tree.nodes.length

/-- The scopes of a request: one to begin with, and what operations on them make of it. -/
inductive Reachable : ScopeTree → Prop
  | lasting (ms : Nat) : Reachable (.lasting ms)
  | child {tree : ScopeTree} (scope : Nat) : Reachable tree → Reachable (tree.child scope)
  | clone {tree : ScopeTree} (scope : Nat) : Reachable tree → Reachable (tree.clone scope)
  | cancel {tree : ScopeTree} (scope : Nat) : Reachable tree → Reachable (tree.cancel scope)
  | guard {tree : ScopeTree} (scope : Nat) : Reachable tree → Reachable (tree.guard scope)
  | dropGuard {tree : ScopeTree} (guard : Nat) : Reachable tree → Reachable (tree.dropGuard guard)

@[simp]
theorem length_nodes_cancelNode (tree : ScopeTree) (k : Nat) :
    (tree.cancelNode k).nodes.length = tree.nodes.length := by
  simp [cancelNode]

@[simp]
theorem node?_cancelNode (tree : ScopeTree) (k scope : Nat) :
    (tree.cancelNode k).node? scope = tree.node? scope := rfl

@[simp]
theorem parent?_cancelNode (tree : ScopeTree) (k n : Nat) :
    (tree.cancelNode k).parent? n = tree.parent? n := by
  rw [parent?, parent?, cancelNode, List.getElem?_modify]
  cases tree.nodes[n]? with
  | none => rfl
  | some node => simp only [Option.bind_some]; split <;> rfl

theorem length_nodes_child (tree : ScopeTree) (scope : Nat) :
    (tree.child scope).nodes.length = tree.nodes.length + 1 :=
  List.length_append

theorem node?_child_of_lt (h : other < tree.scopes.length) (scope : Nat) :
    (tree.child scope).node? other = tree.node? other :=
  List.getElem?_append_left h

theorem node?_child_self (tree : ScopeTree) (scope : Nat) :
    (tree.child scope).node? tree.scopes.length = some tree.nodes.length :=
  List.getElem?_concat_length

theorem parent?_child_of_lt (h : n < tree.nodes.length) (scope : Nat) :
    (tree.child scope).parent? n = tree.parent? n := by
  rw [parent?, parent?, child, List.getElem?_append_left h]

theorem parent?_child_self (tree : ScopeTree) (scope : Nat) :
    (tree.child scope).parent? tree.nodes.length = tree.node? scope := by
  rw [parent?, child, List.getElem?_concat_length]
  rfl

theorem lt_of_parent?_eq_some (h : tree.parent? n = some p) : n < tree.nodes.length := by
  obtain ⟨node, hnode, -⟩ := Option.bind_eq_some_iff.1 h
  exact (List.getElem?_eq_some_iff.1 hnode).1

theorem WellFormed.cancelNode (h : tree.WellFormed) (k : Nat) : (tree.cancelNode k).WellFormed where
  older hparent := h.older (by simpa using hparent)
  listens hnode := by simpa using h.listens hnode

theorem WellFormed.cancel (h : tree.WellFormed) (scope : Nat) : (tree.cancel scope).WellFormed := by
  unfold ScopeTree.cancel
  split
  · exact h.cancelNode _
  · exact h

theorem WellFormed.child (h : tree.WellFormed) (scope : Nat) : (tree.child scope).WellFormed where
  older {n p} hparent := by
    have hlt := lt_of_parent?_eq_some hparent
    rw [length_nodes_child] at hlt
    rcases Nat.lt_or_ge n tree.nodes.length with hold | hnew
    · rw [parent?_child_of_lt hold] at hparent
      exact h.older hparent
    · -- the new node's parent is the one that the given scope listens to
      obtain rfl : n = tree.nodes.length := by omega
      rw [parent?_child_self] at hparent
      exact h.listens hparent
  listens {other n} hnode := by
    rw [length_nodes_child]
    rw [node?, ScopeTree.child, List.getElem?_append] at hnode
    split at hnode
    · have hold := h.listens hnode
      omega
    · obtain ⟨_, hn⟩ := List.getElem?_eq_some_iff.1 hnode
      simp only [List.getElem_singleton] at hn
      omega

theorem WellFormed.clone (h : tree.WellFormed) (scope : Nat) : (tree.clone scope).WellFormed := by
  unfold ScopeTree.clone
  split
  case h_1 n hn =>
    refine ⟨h.older, fun {other m} hnode => ?_⟩
    rw [node?, List.getElem?_append] at hnode
    split at hnode
    · exact h.listens hnode
    · obtain ⟨_, hm⟩ := List.getElem?_eq_some_iff.1 hnode
      simp only [List.getElem_singleton] at hm
      exact hm ▸ h.listens hn
  case h_2 => exact h

theorem WellFormed.dropGuard (h : tree.WellFormed) (guard : Nat) :
    (tree.dropGuard guard).WellFormed := by
  unfold ScopeTree.dropGuard
  split
  · -- the guards take no part in what is well formed
    exact ⟨(h.cancelNode _).older, (h.cancelNode _).listens⟩
  · exact h

/-- The scopes of a request are well formed. -/
theorem Reachable.wellFormed (h : tree.Reachable) : tree.WellFormed := by
  induction h with
  | lasting ms =>
    refine ⟨fun {n p} hparent => ?_, fun {scope n} hnode => ?_⟩
    · obtain ⟨node, hnode, hp⟩ := Option.bind_eq_some_iff.1 hparent
      obtain ⟨_, rfl⟩ := List.getElem?_eq_some_iff.1 hnode
      simp [ScopeTree.lasting] at hp
    · obtain ⟨_, hn⟩ := List.getElem?_eq_some_iff.1 hnode
      simp [ScopeTree.lasting] at hn ⊢
      omega
  | child scope _ ih => exact ih.child scope
  | clone scope _ ih => exact ih.clone scope
  | cancel scope _ ih => exact ih.cancel scope
  | guard scope _ ih => exact ⟨ih.older, ih.listens⟩
  | dropGuard guard _ ih => exact ih.dropGuard guard

/-! ## Cancelled nodes -/

/-- One node stems from another one, or is that one. -/
inductive StemsFrom (tree : ScopeTree) (m : Nat) : Nat → Prop
  | self : StemsFrom tree m m
  | parent {n p : Nat} (hp : tree.parent? n = some p) (h : StemsFrom tree m p) : StemsFrom tree m n

/-- A node was cancelled itself. -/
def Marked (tree : ScopeTree) (n : Nat) : Prop :=
  ∃ node, tree.nodes[n]? = some node ∧ node.cancelled = true

theorem StemsFrom.le (h : tree.WellFormed) (hstems : tree.StemsFrom m n) : m ≤ n := by
  induction hstems with
  | self => exact Nat.le_refl _
  | parent hp _ ih => exact Nat.le_trans ih (Nat.le_of_lt (h.older hp))

theorem stemsFrom_iff :
    tree.StemsFrom m n ↔ m = n ∨ ∃ p, tree.parent? n = some p ∧ tree.StemsFrom m p := by
  constructor
  · rintro (_ | ⟨hp, h⟩)
    · exact Or.inl rfl
    · exact Or.inr ⟨_, hp, h⟩
  · rintro (rfl | ⟨p, hp, h⟩)
    · exact .self
    · exact .parent hp h

/-- The search goes back far enough to find every cancelled node above. -/
theorem cancelledFrom_iff (h : tree.WellFormed) {fuel : Nat} (hfuel : n < fuel) :
    cancelledFrom tree.nodes fuel n = true ↔ ∃ m, tree.StemsFrom m n ∧ tree.Marked m := by
  -- every step goes to an older node, so the number of the node bounds the steps
  induction fuel generalizing n with
  | zero => omega
  | succ fuel ih =>
    rw [cancelledFrom]
    cases hnode : tree.nodes[n]? with
    | none =>
      have hparent : tree.parent? n = none := by rw [parent?, hnode]; rfl
      simp only [Bool.false_eq_true, false_iff, not_exists, not_and]
      rintro m hstems ⟨node, hmark, -⟩
      rcases stemsFrom_iff.1 hstems with rfl | ⟨p, hp, -⟩
      · simp [hnode] at hmark
      · simp [hparent] at hp
    | some node =>
      have hparent : tree.parent? n = node.parent := by rw [parent?, hnode]; rfl
      have hmark : tree.Marked n ↔ node.cancelled = true := by simp [Marked, hnode]
      have habove : (∃ m, tree.StemsFrom m n ∧ tree.Marked m) ↔
          node.cancelled = true ∨
            ∃ p, node.parent = some p ∧ ∃ m, tree.StemsFrom m p ∧ tree.Marked m := by
        rw [← hmark, ← hparent]
        constructor
        · rintro ⟨m, hstems, hm⟩
          rcases stemsFrom_iff.1 hstems with rfl | ⟨p, hp, hstems⟩
          · exact Or.inl hm
          · exact Or.inr ⟨p, hp, m, hstems, hm⟩
        · rintro (hm | ⟨p, hp, m, hstems, hm⟩)
          · exact ⟨n, .self, hm⟩
          · exact ⟨m, .parent hp hstems, hm⟩
      rw [habove]
      simp only [Bool.or_eq_true]
      cases hp : node.parent with
      | none => simp
      | some p =>
        have hlt : p < fuel := by
          have := h.older (hparent.trans hp)
          omega
        simp [ih hlt]

theorem isNodeCancelled_iff (h : tree.WellFormed) :
    tree.isNodeCancelled n = true ↔ ∃ m, tree.StemsFrom m n ∧ tree.Marked m :=
  cancelledFrom_iff h n.lt_succ_self

theorem isCancelled_iff (h : tree.WellFormed) :
    tree.isCancelled scope = true ↔
      ∃ n, tree.node? scope = some n ∧ ∃ m, tree.StemsFrom m n ∧ tree.Marked m := by
  unfold isCancelled
  cases tree.node? scope with
  | none => simp
  | some n => simp [isNodeCancelled_iff h]

/-! ## Cancelling -/

/-- Cancelling one scope cancels another one: the node of that one stems from the node of the
first. -/
def Reaches (tree : ScopeTree) (other scope : Nat) : Prop :=
  ∃ k n, tree.node? other = some k ∧ tree.node? scope = some n ∧ tree.StemsFrom k n

theorem StemsFrom.of_parent?_eq {tree' : ScopeTree}
    (hparent : ∀ n, tree'.parent? n = tree.parent? n) (h : tree.StemsFrom m n) :
    tree'.StemsFrom m n := by
  induction h with
  | self => exact .self
  | parent hp _ ih => exact .parent ((hparent _).trans hp) ih

theorem stemsFrom_cancelNode : (tree.cancelNode k).StemsFrom m n ↔ tree.StemsFrom m n :=
  ⟨.of_parent?_eq fun n => (parent?_cancelNode tree k n).symm,
    .of_parent?_eq (parent?_cancelNode tree k)⟩

theorem marked_cancelNode (hk : k < tree.nodes.length) :
    (tree.cancelNode k).Marked m ↔ tree.Marked m ∨ m = k := by
  have hnode : (tree.cancelNode k).nodes[m]? = tree.nodes[m]?.map fun node =>
      if k = m then { node with cancelled := true } else node :=
    List.getElem?_modify ..
  rw [Marked, Marked, hnode]
  by_cases hm : k = m
  · subst hm
    simp [List.getElem?_eq_getElem hk]
  · simp [hm, Ne.symm hm]

/-- A scope is cancelled after a cancellation if it was so before or if that reaches it. -/
theorem isCancelled_cancel (h : tree.WellFormed) :
    (tree.cancel other).isCancelled scope = true ↔
      tree.isCancelled scope = true ∨ tree.Reaches other scope := by
  unfold cancel Reaches
  cases hother : tree.node? other with
  | none => simp
  | some k =>
    have hk := h.listens hother
    simp only [isCancelled_iff h, isCancelled_iff (h.cancelNode k), node?_cancelNode,
      stemsFrom_cancelNode, marked_cancelNode hk]
    constructor
    · rintro ⟨n, hn, m, hstems, hm | rfl⟩
      · exact Or.inl ⟨n, hn, m, hstems, hm⟩
      · exact Or.inr ⟨m, n, rfl, hn, hstems⟩
    · rintro (⟨n, hn, m, hstems, hm⟩ | ⟨_, n, ⟨rfl⟩, hn, hstems⟩)
      · exact ⟨n, hn, m, hstems, Or.inl hm⟩
      · exact ⟨n, hn, k, hstems, Or.inr rfl⟩

/-- Cancelling a scope does not change what a cancellation reaches. -/
theorem reaches_cancel : (tree.cancel cause).Reaches other scope ↔ tree.Reaches other scope := by
  unfold cancel
  split
  · simp only [Reaches, node?_cancelNode, stemsFrom_cancelNode]
  · exact Iff.rfl

/-! ## Children -/

theorem stemsFrom_child_of_lt (h : tree.WellFormed) (hn : n < tree.nodes.length) :
    (tree.child scope).StemsFrom m n ↔ tree.StemsFrom m n := by
  -- all nodes on the way up from an old one are old
  constructor
  · intro hstems
    induction hstems with
    | self => exact .self
    | parent hp _ ih =>
      rw [parent?_child_of_lt hn] at hp
      exact .parent hp (ih (Nat.lt_trans (h.older hp) hn))
  · intro hstems
    induction hstems with
    | self => exact .self
    | parent hp _ ih =>
      exact .parent ((parent?_child_of_lt hn scope).trans hp) (ih (Nat.lt_trans (h.older hp) hn))

theorem marked_child : (tree.child scope).Marked n ↔ tree.Marked n := by
  simp only [Marked, child, List.getElem?_append]
  split
  · rfl
  · constructor
    · rintro ⟨node, hnode, hmark⟩
      obtain ⟨_, rfl⟩ := List.getElem?_eq_some_iff.1 hnode
      simp at hmark
    · rintro ⟨node, hnode, -⟩
      have hlt := (List.getElem?_eq_some_iff.1 hnode).1
      omega

/-- A new scope changes nothing about the others. -/
theorem isCancelled_child_of_lt (h : tree.WellFormed) (hscope : scope < tree.scopes.length) :
    (tree.child other).isCancelled scope = tree.isCancelled scope := by
  rw [Bool.eq_iff_iff, isCancelled_iff h, isCancelled_iff (h.child other), node?_child_of_lt hscope]
  refine exists_congr fun n => and_congr_right fun hn => ?_
  simp only [stemsFrom_child_of_lt h (h.listens hn), marked_child]

/-- What stems from the new node is above it: the node itself, and what the parent stems from. -/
theorem stemsFrom_child_self (h : tree.WellFormed) (hn : tree.node? scope = some n) :
    (tree.child scope).StemsFrom m tree.nodes.length ↔
      m = tree.nodes.length ∨ tree.StemsFrom m n := by
  rw [stemsFrom_iff, parent?_child_self, hn]
  simp only [Option.some.injEq, exists_eq_left', stemsFrom_child_of_lt h (h.listens hn)]

/-- A new scope is cancelled if its parent is. -/
theorem isCancelled_child_self (h : tree.WellFormed) (hn : tree.node? scope = some n) :
    (tree.child scope).isCancelled tree.scopes.length = tree.isCancelled scope := by
  have hfresh : ¬ tree.Marked tree.nodes.length := by simp [Marked]
  rw [Bool.eq_iff_iff, isCancelled_iff h, isCancelled_iff (h.child scope), node?_child_self, hn]
  simp only [Option.some.injEq, exists_eq_left', stemsFrom_child_self h hn, marked_child]
  constructor
  · rintro ⟨m, rfl | hstems, hm⟩
    · exact absurd hm hfresh
    · exact ⟨m, hstems, hm⟩
  · rintro ⟨m, hstems, hm⟩
    exact ⟨m, Or.inr hstems, hm⟩

/-- A cancellation reaches the same old scopes whether there is a new one or not. -/
theorem reaches_child_of_lt (h : tree.WellFormed) (hscope : scope < tree.scopes.length)
    (hcause : cause < tree.scopes.length) :
    (tree.child other).Reaches cause scope ↔ tree.Reaches cause scope := by
  unfold Reaches
  rw [node?_child_of_lt hscope, node?_child_of_lt hcause]
  refine exists_congr fun k => exists_congr fun n => ?_
  refine and_congr_right fun _ => and_congr_right fun hn => ?_
  exact stemsFrom_child_of_lt h (h.listens hn)

/-- Cancelling the new scope reaches none of the others. -/
theorem not_reaches_child (h : tree.WellFormed) (hscope : scope < tree.scopes.length) :
    ¬ (tree.child other).Reaches tree.scopes.length scope := by
  rintro ⟨k, n, hk, hn, hstems⟩
  rw [node?_child_self] at hk
  rw [node?_child_of_lt hscope] at hn
  cases hk
  have hle := hstems.le (h.child other)
  exact absurd (h.listens hn) (by omega)

/-- A cancellation of an old scope reaches the new one if it reaches the parent. -/
theorem reaches_child_self (h : tree.WellFormed) (hn : tree.node? scope = some n)
    (hcause : cause < tree.scopes.length) :
    (tree.child scope).Reaches cause tree.scopes.length ↔ tree.Reaches cause scope := by
  unfold Reaches
  rw [node?_child_of_lt hcause, node?_child_self, hn]
  constructor
  · rintro ⟨k, _, hk, ⟨rfl⟩, hstems⟩
    rcases (stemsFrom_child_self h hn).1 hstems with rfl | hstems
    · exact absurd (h.listens hk) (Nat.lt_irrefl _)
    · exact ⟨k, n, hk, rfl, hstems⟩
  · rintro ⟨k, _, hk, ⟨rfl⟩, hstems⟩
    exact ⟨k, _, hk, rfl, (stemsFrom_child_self h hn).2 (Or.inr hstems)⟩

/-! ## Cancellations one after another -/

/-- A scope is cancelled after some cancellations if it was so before or if one of them reaches
it. -/
theorem isCancelled_foldl_cancel (h : tree.WellFormed) (cancels : List (Nat × Nat)) :
    (cancels.foldl (fun tree c => tree.cancel c.2) tree).isCancelled scope = true ↔
      tree.isCancelled scope = true ∨ ∃ c ∈ cancels, tree.Reaches c.2 scope := by
  -- what a cancellation reaches is the same in all trees on the way, so it is said of the first
  induction cancels generalizing tree with
  | nil => simp
  | cons c rest ih =>
    rw [List.foldl_cons, ih (h.cancel c.2), isCancelled_cancel h]
    simp only [reaches_cancel, List.mem_cons, or_and_right, exists_or, exists_eq_left, or_assoc]

end ScopeTree

/-! ## Scopes over time -/

namespace ScopeTimeline

variable {timeline : ScopeTimeline} {scope caller moment : Nat}

/-- The scopes are those of a request, and only scopes that there are will be cancelled. -/
structure Sound (timeline : ScopeTimeline) : Prop where
  /-- The scopes are those of a request. -/
  reachable : timeline.tree.Reachable
  /-- What will be cancelled is one of them. -/
  known : ∀ c ∈ timeline.cancels, c.2 < timeline.tree.scopes.length

theorem Sound.wellFormed (h : timeline.Sound) : timeline.tree.WellFormed :=
  h.reachable.wellFormed

/-- A scope is cancelled from the start or by an earlier cancellation that reaches it. -/
theorem isCancelled_iff (h : timeline.tree.WellFormed) :
    timeline.isCancelled scope moment = true ↔
      timeline.tree.isCancelled scope = true ∨
        ∃ c ∈ timeline.cancels, c.1 ≤ moment ∧ timeline.tree.Reaches c.2 scope := by
  rw [isCancelled, treeAt, ScopeTree.isCancelled_foldl_cancel h]
  simp only [List.mem_filter, decide_eq_true_eq, and_assoc]

/-- A scope that is cancelled stays so. -/
theorem isCancelled_of_le (h : timeline.tree.WellFormed) {earlier later : Nat}
    (hearlier : timeline.isCancelled scope earlier = true) (hle : earlier ≤ later) :
    timeline.isCancelled scope later = true := by
  rw [isCancelled_iff h] at hearlier ⊢
  rcases hearlier with hstart | ⟨c, hc, hmoment, hreaches⟩
  · exact Or.inl hstart
  · exact Or.inr ⟨c, hc, Nat.le_trans hmoment hle, hreaches⟩

/-- What bounds the work within a scope is cancelled exactly when the scope is. -/
theorem isCancelled_scope (h : timeline.tree.WellFormed) (scope moment : Nat) :
    (timeline.scope scope).isCancelled moment = timeline.isCancelled scope moment := by
  have hbound : (timeline.scope scope).isCancelled moment = true ↔
      ∃ first, timeline.cancelMoment? scope = some first ∧ first ≤ moment := by
    unfold Scope.isCancelled ScopeTimeline.scope
    cases timeline.cancelMoment? scope with
    | none => simp
    | some first => simp
  rw [Bool.eq_iff_iff, hbound]
  constructor
  · rintro ⟨first, hfirst, hle⟩
    have hmem := List.min?_mem hfirst
    exact isCancelled_of_le h (List.mem_filter.1 hmem).2 hle
  · intro hcancelled
    -- the start, or the cancellation that reaches the scope, is among the moments to choose from
    have hsome : ∃ earlier ∈ (0 :: timeline.cancels.map (·.1)).filter
        (timeline.isCancelled scope ·), earlier ≤ moment := by
      rcases (isCancelled_iff h).1 hcancelled with hstart | ⟨c, hc, hmoment, hreaches⟩
      · refine ⟨0, List.mem_filter.2 ⟨List.mem_cons_self, ?_⟩, Nat.zero_le moment⟩
        exact (isCancelled_iff h).2 (Or.inl hstart)
      · have hmem : c.1 ∈ timeline.cancels.map (·.1) := List.mem_map_of_mem hc
        refine ⟨c.1, List.mem_filter.2 ⟨List.mem_cons_of_mem 0 hmem, ?_⟩, hmoment⟩
        exact (isCancelled_iff h).2 (Or.inr ⟨c, hc, Nat.le_refl c.1, hreaches⟩)
    obtain ⟨earlier, hmem, hle⟩ := hsome
    obtain ⟨first, hfirst⟩ := Option.isSome_iff_exists.1 (List.isSome_min?_of_mem hmem)
    exact ⟨first, hfirst, Nat.le_trans ((List.min?_eq_some_iff.1 hfirst).2 earlier hmem) hle⟩

/-! ### A scope of its own -/

/-- A new scope leaves the others as they are. -/
theorem isCancelled_child_of_lt (h : timeline.Sound) (hscope : scope < timeline.tree.scopes.length)
    (caller : Nat) :
    (timeline.child caller).isCancelled scope moment = timeline.isCancelled scope moment := by
  rw [Bool.eq_iff_iff, isCancelled_iff h.wellFormed, isCancelled_iff (h.wellFormed.child caller),
    child, ScopeTree.isCancelled_child_of_lt h.wellFormed hscope]
  refine or_congr_right (exists_congr fun c => ?_)
  refine and_congr_right fun hc => and_congr_right fun _ => ?_
  exact ScopeTree.reaches_child_of_lt h.wellFormed hscope (h.known c hc)

/-- A new scope is cancelled when its parent is. -/
theorem isCancelled_child_self (h : timeline.Sound)
    (hcaller : caller < timeline.tree.scopes.length) :
    (timeline.child caller).isCancelled timeline.tree.scopes.length moment =
      timeline.isCancelled caller moment := by
  have hn : timeline.tree.node? caller = some timeline.tree.scopes[caller] :=
    List.getElem?_eq_getElem hcaller
  rw [Bool.eq_iff_iff, isCancelled_iff h.wellFormed, isCancelled_iff (h.wellFormed.child caller),
    child, ScopeTree.isCancelled_child_self h.wellFormed hn]
  refine or_congr_right (exists_congr fun c => ?_)
  refine and_congr_right fun hc => and_congr_right fun _ => ?_
  exact ScopeTree.reaches_child_self h.wellFormed hn (h.known c hc)

/-- Work within a new scope is bounded as it is within the parent. -/
theorem scope_child_self (h : timeline.Sound) (hcaller : caller < timeline.tree.scopes.length) :
    (timeline.child caller).scope timeline.tree.scopes.length = timeline.scope caller := by
  have hmoment : (timeline.child caller).cancelMoment? timeline.tree.scopes.length =
      timeline.cancelMoment? caller := by
    unfold cancelMoment?
    congr 1
    exact List.filter_congr fun moment _ => isCancelled_child_self h hcaller
  rw [ScopeTimeline.scope, ScopeTimeline.scope, hmoment]
  rfl

/-- A scope is cancelled with one more cancellation if it is without, or if that reaches it in
time. -/
theorem isCancelled_cancelAt (h : timeline.tree.WellFormed) {other when : Nat} :
    (timeline.cancelAt other when).isCancelled scope moment = true ↔
      timeline.isCancelled scope moment = true ∨
        when ≤ moment ∧ timeline.tree.Reaches other scope := by
  have hafter : (timeline.cancelAt other when).tree.WellFormed := h
  rw [isCancelled_iff h, isCancelled_iff hafter]
  simp only [cancelAt, List.mem_append, List.mem_singleton, or_and_right, exists_or, exists_eq_left,
    or_assoc]

/-- Cancelling a new scope leaves the others as they are. -/
theorem isCancelled_cancelAt_child (h : timeline.Sound)
    (hscope : scope < timeline.tree.scopes.length) (when : Nat) :
    ((timeline.child caller).cancelAt timeline.tree.scopes.length when).isCancelled scope moment =
      timeline.isCancelled scope moment := by
  have hreaches : ¬ (timeline.child caller).tree.Reaches timeline.tree.scopes.length scope :=
    ScopeTree.not_reaches_child h.wellFormed hscope
  rw [← isCancelled_child_of_lt h hscope caller, Bool.eq_iff_iff,
    isCancelled_cancelAt (h.wellFormed.child caller)]
  simp only [hreaches, and_false, or_false]

/-- A new scope that is cancelled is so from then on. -/
theorem isCancelled_cancelAt_child_self (h : timeline.Sound) {when : Nat} (hwhen : when ≤ moment) :
    ((timeline.child caller).cancelAt timeline.tree.scopes.length when).isCancelled
      timeline.tree.scopes.length moment = true := by
  have hnode := ScopeTree.node?_child_self timeline.tree caller
  rw [isCancelled_cancelAt (h.wellFormed.child caller)]
  exact Or.inr ⟨hwhen, _, _, hnode, hnode, .self⟩

end ScopeTimeline

end FleetDashboard
