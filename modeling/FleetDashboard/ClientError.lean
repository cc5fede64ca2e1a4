import FleetDashboard.ServerFailure

/-!
# Errors of the client layer

What can go wrong before an API server is asked, or when it fails.
-/

namespace FleetDashboard

/-- An error of the client layer. -/
inductive ClientError where
  /-- There is no usable credential. -/
  | unauthorized (reason : String)
  /-- The caller may not act on the cluster. -/
  | forbidden (reason : String)
  /-- The configuration of the named target has not been set. -/
  | notInitialized (target : String)
  /-- A client cannot be built. -/
  | construction (reason : String)
  /-- The configuration is invalid. -/
  | config (reason : String)
  /-- A bounded wait elapsed. -/
  | timeout (reason : String)
  /-- The API server failed. -/
  | server (failure : ServerFailure)
deriving DecidableEq

/-- The text shown to callers. -/
def ClientError.message : ClientError → String
  | .unauthorized reason => "unauthorized: " ++ reason
  | .forbidden reason => "forbidden: " ++ reason
  | .notInitialized target =>
    "client configuration for " ++ target ++ " has not been initialized"
  | .construction reason => "failed to construct client: " ++ reason
  | .config reason => "configuration error: " ++ reason
  | .timeout reason => "timed out: " ++ reason
  | .server failure => failure.text

end FleetDashboard
