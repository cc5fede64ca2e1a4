import FleetDashboard.Json.Basic
import FleetDashboard.ResourceError

/-!
# Errors of the API

Every error that ends a request has an HTTP status and a message, and is answered in one shape.

* `ServiceError`: the errors.
* `ServiceError.status`: the status; a failure of an API server is told apart by its kind.
* `ServiceError.body`: the shape of the answer.
-/

namespace FleetDashboard

/-- An error that ends a request. -/
inductive ServiceError where
  /-- An error of the client layer. -/
  | client (error : ClientError)
  /-- An error of a listing or a view. -/
  | resource (error : ResourceError)
  /-- The configuration of the service is invalid. -/
  | config (reason : String)
  /-- The service itself failed. -/
  | internal (reason : String)
deriving DecidableEq

/-- The status under which a failure of an API server is answered. -/
def FailureKind.responseStatus : FailureKind → Nat
  | .notFound => 404
  | .timeout => 504
  | .unauthorized => 401
  | .forbidden => 403
  | _ => 502

/-- The status under which an error of the client layer is answered. -/
def ClientError.responseStatus : ClientError → Nat
  | .unauthorized _ => 401
  | .forbidden _ => 403
  | .timeout _ => 504
  | .server failure => failure.kind.responseStatus
  | .notInitialized _ => 500
  | .construction _ => 500
  | .config _ => 500

/-- The status under which an error of a view is answered. -/
def ResourceError.responseStatus : ResourceError → Nat
  | .client error => error.responseStatus
  | .server failure => failure.kind.responseStatus
  | .query _ => 400
  | .read _ _ => 502

namespace ServiceError

/-- The status of the answer. -/
def status : ServiceError → Nat
  | .client error => error.responseStatus
  | .resource error => error.responseStatus
  | .config _ => 500
  | .internal _ => 500

/-- The text shown to callers. -/
def message : ServiceError → String
  | .client error => error.message
  | .resource error => error.message
  | .config reason => "configuration error: " ++ reason
  | .internal reason => "internal error: " ++ reason

/-- The document of the answer. -/
def body (error : ServiceError) : Json :=
  .obj [("code", .nat error.status), ("message", .str error.message), ("data", .null)]

end ServiceError

end FleetDashboard
