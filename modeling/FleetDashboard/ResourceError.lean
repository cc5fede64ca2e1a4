import FleetDashboard.ClientError
import FleetDashboard.Kubernetes.Object
import FleetDashboard.Selection.Query

/-!
# Errors of listings and views

What can go wrong between a request for a view and its answer.
-/

namespace FleetDashboard

/-- An error of a listing or a view. -/
inductive ResourceError where
  /-- No client could be had. -/
  | client (error : ClientError)
  /-- The API server failed. -/
  | server (failure : ServerFailure)
  /-- The selection is malformed. -/
  | query (reason : String)
  /-- An object of the kind could not be read. -/
  | read (kind : ResourceKind) (reason : String)
deriving DecidableEq

namespace ResourceError

/-- The text shown to callers. -/
def message : ResourceError → String
  | .client error => error.message
  | .server failure => failure.text
  | .query reason => "invalid query: " ++ reason
  | .read kind reason => "failed to decode " ++ kind.name ++ ": " ++ reason

/-- A failed reading as an error. -/
def ofReadFailure (failure : ReadFailure) : ResourceError :=
  .read failure.kind failure.reason

/-- A flaw in a selection as an error. -/
def ofQueryFlaw (flaw : Selection.QueryFlaw) : ResourceError :=
  .query flaw.message

end ResourceError

end FleetDashboard
