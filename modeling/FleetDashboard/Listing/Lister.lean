import FleetDashboard.Kubernetes.Object
import FleetDashboard.Listing.Namespaces
import FleetDashboard.ServerFailure
import FleetDashboard.Time.Wait

/-!
# Listers

A lister answers two calls on one API server: listing the objects of a kind, and getting one of
them. An answer takes time, may never come, and may be a failure.

* `Call`: a call, as logs name it.
* `Lister`: how calls are answered.
* `Lister.fetch`: gets one object within a scope.
-/

namespace FleetDashboard

/-- A call to an API server. -/
inductive Call where
  /-- Lists the objects of a kind in some namespaces. -/
  | list (kind : ResourceKind) (wanted : Namespaces)
  /-- Gets one object. -/
  | get (kind : ResourceKind) (inNamespace name : String)
deriving DecidableEq

namespace Call

/-- The name of wanted namespaces: the only one, all, or several. -/
def namespacesText (wanted : Namespaces) : String :=
  match wanted.single? with
  | some only => only
  | none => if wanted == .all then "*" else "several"

/-- The text of a call in logs. -/
def text : Call → String
  | .list kind wanted => "list " ++ kind.name ++ " " ++ namespacesText wanted
  | .get kind inNamespace name => "get " ++ kind.name ++ " " ++ inNamespace ++ "/" ++ name

end Call

/-- What a call comes to. -/
inductive Reply (α : Type) where
  /-- Its answer. -/
  | answer (value : α)
  /-- A failure. -/
  | failure (failure : ServerFailure)
  /-- Nothing: the work on it broke off. -/
  | broken

/-- How an API server answers. -/
structure Lister where
  /-- The objects of a kind, in order, without those outside the wanted namespaces. -/
  list : ResourceKind → Namespaces → Wait (Reply (List ApiObject))
  /-- One object by namespace and name. -/
  get : ResourceKind → String → String → Wait (Except ServerFailure ApiObject)

/-- A call is started unless the scope is cancelled. -/
def Call.start (call : Call) (scope : Scope) : Task Call Unit := fun now =>
  ⟨(), now, if scope.isCancelled now then [] else [call]⟩

namespace Lister

/-- Gets one object within a scope. -/
def fetch (lister : Lister) (kind : ResourceKind) (inNamespace name : String) (scope : Scope) :
    Task Call (Except ServerFailure ApiObject) := do
  (Call.get kind inNamespace name).start scope
  let ending ← Task.await scope (lister.get kind inNamespace name)
  let what := "get " ++ kind.name ++ " " ++ inNamespace ++ "/" ++ name
  return match ending with
    | .result reply => reply
    | .cancelled => .error (.timeout (what ++ " cancelled"))
    | .late => .error (.timeout (what ++ " exceeded request deadline"))

end Lister

end FleetDashboard
