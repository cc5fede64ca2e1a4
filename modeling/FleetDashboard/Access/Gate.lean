import FleetDashboard.ClientError
import FleetDashboard.Time.Span
import FleetDashboard.Time.Wait

/-!
# Access to clusters

A gate asks a policy on every check whether a user may act on a cluster, and never remembers an
answer. A check is bounded by the gate's own timeout and by the scope of the request.

* `AccessGate.check`: the decision on one cluster, or why there is none.
* `AccessGate.require`: access to one cluster; a refusal and a failed check are both errors.
* `AccessGate.requireAdmin`: access to the management cluster, which is never granted by default.
* `AccessGate.filterAccessible`: the items whose clusters the user may access.
-/

namespace FleetDashboard

/-- Why a policy gave no decision. -/
inductive PolicyFailure where
  /-- It took longer than the given milliseconds. -/
  | timeout (ms : Nat)
  /-- The request was cancelled. -/
  | cancelled
  /-- The policy could not be evaluated. -/
  | evaluation (reason : String)
  /-- The policy could not be reached. -/
  | unavailable (reason : String)
deriving DecidableEq

/-- The wording of a policy failure. -/
def PolicyFailure.message : PolicyFailure → String
  | .timeout ms => "policy check timed out after " ++ Span.text ms
  | .cancelled => "policy check cancelled"
  | .evaluation reason => "policy evaluation failed: " ++ reason
  | .unavailable reason => "policy service unavailable: " ++ reason

/-- Decides whether a user may act on a cluster. -/
abbrev AccessPolicy := (user cluster : String) → Wait (Except PolicyFailure Bool)

/-- The decision on one cluster. -/
inductive Decision where
  | allow
  | deny
deriving DecidableEq

/-- Why a request is refused. -/
inductive Refusal where
  /-- The policy denies the user the cluster. -/
  | denied (user cluster : String)
  /-- The check of the cluster failed. -/
  | unchecked (cluster : String) (failure : PolicyFailure)
  /-- There is no policy that could grant management access. -/
  | noPolicy
  /-- There is no user to whom management access could be granted. -/
  | noUser
deriving DecidableEq

/-- The wording of a refusal. -/
def Refusal.message : Refusal → String
  | .denied user cluster => "user " ++ user ++ " may not access cluster " ++ cluster
  | .unchecked cluster failure =>
    "access check for cluster " ++ cluster ++ " failed: " ++ failure.message
  | .noPolicy => "management routes require an access policy"
  | .noUser => "management routes require an impersonated user"

/-- The error that a refusal is reported as. -/
def Refusal.toError (refusal : Refusal) : ClientError :=
  .forbidden refusal.message

/-- The name under which the management cluster is addressed. -/
def managementCluster : String := "mgmt-cluster"

/-- Where access is decided. -/
structure AccessGate where
  /-- The policy; without one every check is passed. -/
  policy : Option AccessPolicy
  /-- How long one check may take, in milliseconds. -/
  timeout : Nat

namespace AccessGate

variable {ε α : Type}

/-- How long a check may take when nothing else is set. -/
def standardTimeout : Nat := 5000

/-- Whether there is a policy. -/
def isEnforcing (gate : AccessGate) : Bool :=
  gate.policy.isSome

/-- The user whom a policy is asked about; nobody for a missing or empty name. -/
def askedUser? (user : Option String) : Option String :=
  user.filter (· ≠ "")

/-- The decision on one cluster. Without a user or a policy access is allowed. -/
def check (gate : AccessGate) (user : Option String) (cluster : String) (scope : Scope) :
    Task ε (Except PolicyFailure Decision) :=
  match askedUser? user, gate.policy with
  | some name, some policy => fun now =>
    let timed := (scope.within now gate.timeout).await now (policy name cluster)
    let outcome :=
      match timed.value with
      | .result (.ok true) => .ok .allow
      | .result (.ok false) => .ok .deny
      | .result (.error failure) => .error failure
      | .late => .error (.timeout (min gate.timeout (scope.remaining now)))
      | .cancelled => .error .cancelled
    ⟨outcome, timed.finish, []⟩
  | _, _ => .done (.ok .allow)

/-- Access to one cluster. -/
def require (gate : AccessGate) (user : Option String) (cluster : String) (scope : Scope) :
    Task ε (Except ClientError Unit) :=
  (gate.check user cluster scope).andThen fun outcome =>
    .done <|
      match outcome with
      | .ok .allow => .ok ()
      | .ok .deny => .error (Refusal.denied (user.getD "") cluster).toError
      | .error failure => .error (Refusal.unchecked cluster failure).toError

/-- Access to the management cluster; it has to be granted by a policy to a user. -/
def requireAdmin (gate : AccessGate) (user : Option String) (scope : Scope) :
    Task ε (Except ClientError Unit) :=
  if !gate.isEnforcing then .done (.error Refusal.noPolicy.toError)
  else if (askedUser? user).isNone then .done (.error Refusal.noUser.toError)
  else gate.require user managementCluster scope

/-- The items whose clusters the user may access, in order. The checks run side by side; an item
whose check fails is left out. -/
def filterAccessible (gate : AccessGate) (user : Option String) (items : List α)
    (clusterOf : α → String) (scope : Scope) : Task ε (List α) :=
  (Task.all (items.map fun item => gate.check user (clusterOf item) scope)).andThen
    fun decisions =>
      .done ((items.zip decisions).filterMap fun (item, decision) =>
        match decision with
        | .ok .allow => some item
        | _ => none)

end AccessGate

end FleetDashboard
