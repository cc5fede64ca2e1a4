import FleetDashboard.Time.Wait

/-!
# Scopes that share cancellation

The scopes of one request form a tree: cancelling a scope cancels its children, not its parent, and
clones are cancelled together. A guard cancels a scope when it is dropped. All scopes share one
deadline.

A `ScopeTimeline` says when which scope is cancelled; `ScopeTimeline.scope` is what then bounds the
work within one of them.
-/

namespace FleetDashboard

/-- The origin of a cancellation: the one it stems from, which is older, and whether it was
cancelled itself. -/
structure CancelNode where
  /-- The number of the parent, if there is one. -/
  parent : Option Nat
  /-- Whether this very node was cancelled. -/
  cancelled : Bool
deriving DecidableEq

/-- The scopes of a request. -/
structure ScopeTree where
  /-- The origins of cancellation, each after its parent. -/
  nodes : List CancelNode
  /-- The origin that each scope listens to. -/
  scopes : List Nat
  /-- The origin that each guard cancels; none once it is dropped. -/
  guards : List (Option Nat)
  /-- The deadline of all scopes. -/
  deadline : Nat
deriving DecidableEq

namespace ScopeTree

/-- One scope that ends after `ms` milliseconds. -/
def lasting (ms : Nat) : ScopeTree :=
  { nodes := [{ parent := none, cancelled := false }], scopes := [0], guards := [],
    deadline := ms }

/-- Whether a node or one that it stems from was cancelled; the search goes back at most `fuel`
steps. -/
def cancelledFrom (nodes : List CancelNode) : Nat → Nat → Bool
  | 0, _ => false
  | fuel + 1, n =>
    match nodes[n]? with
    | none => false
    | some node =>
      node.cancelled ||
        match node.parent with
        | some p => cancelledFrom nodes fuel p
        | none => false

/-- Whether a node is cancelled. Parents are older, so its own number bounds the search. -/
def isNodeCancelled (tree : ScopeTree) (n : Nat) : Bool :=
  cancelledFrom tree.nodes (n + 1) n

/-- The node that a scope listens to. -/
def node? (tree : ScopeTree) (scope : Nat) : Option Nat :=
  tree.scopes[scope]?

/-- Whether a scope is cancelled. -/
def isCancelled (tree : ScopeTree) (scope : Nat) : Bool :=
  match tree.node? scope with
  | some n => tree.isNodeCancelled n
  | none => false

/-- A new scope that is cancelled with the given one, or alone. -/
def child (tree : ScopeTree) (scope : Nat) : ScopeTree :=
  { tree with
    nodes := tree.nodes ++ [{ parent := tree.node? scope, cancelled := false }]
    scopes := tree.scopes ++ [tree.nodes.length] }

/-- A new scope that listens to the same cancellation. -/
def clone (tree : ScopeTree) (scope : Nat) : ScopeTree :=
  match tree.node? scope with
  | some n => { tree with scopes := tree.scopes ++ [n] }
  | none => tree

/-- Cancels a node. -/
def cancelNode (tree : ScopeTree) (n : Nat) : ScopeTree :=
  { tree with nodes := tree.nodes.modify n fun node => { node with cancelled := true } }

/-- Cancels a scope. -/
def cancel (tree : ScopeTree) (scope : Nat) : ScopeTree :=
  match tree.node? scope with
  | some n => tree.cancelNode n
  | none => tree

/-- A guard that cancels the scope when it is dropped. -/
def guard (tree : ScopeTree) (scope : Nat) : ScopeTree :=
  { tree with guards := tree.guards ++ [tree.node? scope] }

/-- Drops a guard; dropping it again does nothing. -/
def dropGuard (tree : ScopeTree) (guard : Nat) : ScopeTree :=
  match tree.guards[guard]? with
  | some (some n) =>
    { tree.cancelNode n with guards := tree.guards.set guard none }
  | _ => tree

/-- How long a wait for cancellation takes that gives up after `limit` milliseconds. -/
def waitForCancel (tree : ScopeTree) (scope limit : Nat) : Nat :=
  if tree.isCancelled scope then 0 else limit

end ScopeTree

/-! ## Scopes over time -/

/-- The scopes of a request and their cancellations. -/
structure ScopeTimeline where
  /-- The scopes, with what is cancelled from the start. -/
  tree : ScopeTree
  /-- The cancellations to come: the moment of each, and the scope that is cancelled. -/
  cancels : List (Nat × Nat)

namespace ScopeTimeline

/-- The scopes at a moment. -/
def treeAt (timeline : ScopeTimeline) (moment : Nat) : ScopeTree :=
  (timeline.cancels.filter fun c => c.1 ≤ moment).foldl (fun tree c => tree.cancel c.2)
    timeline.tree

/-- Whether a scope is cancelled at a moment. -/
def isCancelled (timeline : ScopeTimeline) (scope moment : Nat) : Bool :=
  (timeline.treeAt moment).isCancelled scope

/-- The moment from which on a scope is cancelled; zero if it is so from the start. -/
def cancelMoment? (timeline : ScopeTimeline) (scope : Nat) : Option Nat :=
  ((0 :: timeline.cancels.map (·.1)).filter fun moment => timeline.isCancelled scope moment).min?

/-- What bounds the work within a scope. -/
def scope (timeline : ScopeTimeline) (scope : Nat) : Scope :=
  { deadline := timeline.tree.deadline, cancelledAt := timeline.cancelMoment? scope }

/-- A new scope, numbered behind all others, that is cancelled with the given one, or alone. -/
def child (timeline : ScopeTimeline) (scope : Nat) : ScopeTimeline :=
  { timeline with tree := timeline.tree.child scope }

/-- Cancels a scope at a moment. -/
def cancelAt (timeline : ScopeTimeline) (scope moment : Nat) : ScopeTimeline :=
  { timeline with cancels := timeline.cancels ++ [(moment, scope)] }

end ScopeTimeline

end FleetDashboard
