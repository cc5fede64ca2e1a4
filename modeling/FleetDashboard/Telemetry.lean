import FleetDashboard.Telemetry.Directive
import FleetDashboard.Text.Quoted

/-!
# Logging settings

The log format, the log filter, and the words that count decisions and listings in metrics.
-/

namespace FleetDashboard.Telemetry

/-- How log lines are written. -/
inductive LogFormat where
  /-- One JSON object a line; the default. -/
  | json
  /-- Plain lines. -/
  | text
deriving DecidableEq

namespace LogFormat

/-- The format's name. -/
def name : LogFormat → String
  | .json => "json"
  | .text => "text"

/-- The message about a name that is no format. -/
def refusal (given : String) : String :=
  "unknown log format " ++ Text.quote given ++ ", expected json or text"

/-- The format of a name, capitals or not. -/
def parse (raw : String) : Except String LogFormat :=
  let given := Text.asciiLower raw
  if given = "json" then .ok .json
  else if given = "text" then .ok .text
  else .error (refusal given)

/-- The format used when none is chosen. -/
def standard : LogFormat := .json

end LogFormat

/-- What came of setting up logging in a process that already logs. -/
inductive SetupFault where
  /-- The filter cannot be used. -/
  | filter (raw : String)
  /-- Logging is set up already. -/
  | alreadySetUp
deriving DecidableEq

/-- Sets up logging a second time: an explicit filter is checked first. -/
def setUpAgain (filter : Option String) : SetupFault :=
  match filter with
  | some raw => if isFilter raw then .alreadySetUp else .filter raw
  | none => .alreadySetUp

/-- The words for access decisions in metrics. -/
def decisionLabels : List String :=
  ["allow", "deny", "error", "bypass"]

/-- The words for the outcome of a listing in metrics. -/
def listingLabels : List String :=
  ["ok", "warning", "critical"]

end FleetDashboard.Telemetry
