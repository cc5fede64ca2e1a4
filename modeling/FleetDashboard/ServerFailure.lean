import FleetDashboard.Json.Basic

/-!
# Failures of API servers

Every failure of a call to an API server falls into one of nine kinds. One rule tells the kinds that
only degrade a response (the objects do not exist, or may not be read) from the critical ones that
abort it.

* `FailureKind`: the kinds, with `ofStatus` for HTTP statuses and `isCritical`.
* `ServerFailure`: a failure with its message and, when the server answered, its code.
* `CallFault`: what can go wrong in one call, and the failure that it is reported as.
* `FailureSplit`: warnings in order and the first critical failure.
-/

namespace FleetDashboard

/-- The kind of a failed call. -/
inductive FailureKind where
  /-- The object, or its kind, does not exist. -/
  | notFound
  /-- The caller may not read it. -/
  | forbidden
  /-- The credential was rejected. -/
  | unauthorized
  /-- A write conflict. -/
  | conflict
  /-- The request was malformed. -/
  | invalid
  /-- A deadline passed, here or on the server. -/
  | timeout
  /-- The server is overloaded or down for the moment. -/
  | unavailable
  /-- No answer arrived. -/
  | transport
  /-- Anything else. -/
  | internal
deriving DecidableEq

namespace FailureKind

/-- The kind of an answer with an error status. -/
def ofStatus (code : Nat) : FailureKind :=
  match code with
  | 404 => .notFound
  | 403 => .forbidden
  | 401 => .unauthorized
  | 409 => .conflict
  | 400 => .invalid
  | 422 => .invalid
  | 408 => .timeout
  | 504 => .timeout
  | 429 => .unavailable
  | 503 => .unavailable
  | _ => .internal

/-- Whether a failure of the kind aborts a response that gathers several results. -/
def isCritical : FailureKind → Bool
  | .notFound => false
  | .forbidden => false
  | _ => true

/-- The name in messages. -/
def label : FailureKind → String
  | .notFound => "not_found"
  | .forbidden => "forbidden"
  | .unauthorized => "unauthorized"
  | .conflict => "conflict"
  | .invalid => "invalid"
  | .timeout => "timeout"
  | .unavailable => "unavailable"
  | .transport => "transport"
  | .internal => "internal"

/-- The name in response bodies. -/
def jsonName : FailureKind → String
  | .notFound => "notFound"
  | kind => kind.label

end FailureKind

/-- A failed call to an API server. -/
structure ServerFailure where
  /-- Its kind. -/
  kind : FailureKind
  /-- What the server or the connection said. -/
  message : String
  /-- The status code, when the server answered. -/
  code : Option Nat
deriving DecidableEq

namespace ServerFailure

/-- A failure without a status code. -/
def plain (kind : FailureKind) (message : String) : ServerFailure :=
  { kind, message, code := none }

/-- A deadline that passed, or a cancellation. -/
def timeout (message : String) : ServerFailure :=
  plain .timeout message

/-- Whether the failure aborts a response that gathers several results. -/
def isCritical (failure : ServerFailure) : Bool :=
  failure.kind.isCritical

/-- The text shown to callers. -/
def text (failure : ServerFailure) : String :=
  "upstream " ++ failure.kind.label ++ " error: " ++ failure.message

/-- The form in response bodies; a missing code is left out. -/
def toJson (failure : ServerFailure) : Json :=
  .obj ([("kind", .str failure.kind.jsonName), ("message", .str failure.message)]
    ++ Json.field? "code" (failure.code.map Json.nat))

end ServerFailure

/-! ## Faults of one call -/

/-- What can go wrong in one call. -/
inductive CallFault where
  /-- The server answered with an error. -/
  | answered (code : Nat) (message : String)
  /-- The connection failed before an answer arrived. -/
  | connection (reason : String)
  /-- The answer was cut off within a line. -/
  | brokenLine
  /-- The target needs TLS and none is set up. -/
  | missingTls
  /-- The request could not be built. -/
  | request (reason : String)
  /-- The answer is not what was asked for. -/
  | answer (reason : String)
deriving DecidableEq

namespace CallFault

/-- The kind under which a fault is reported. -/
def kind : CallFault → FailureKind
  | .answered code _ => .ofStatus code
  | .connection _ => .transport
  | _ => .internal

/-- The wording of a fault. -/
def message : CallFault → String
  | .answered _ message => message
  | .connection reason => "ServiceError: " ++ reason
  | .brokenLine => "Error finding newline character"
  | .missingTls => "TLS required but no TLS stack selected"
  | .request reason => "Failed to build request: " ++ reason
  | .answer reason => "Error deserializing response: " ++ reason

/-- The failure that a fault is reported as. -/
def toFailure (fault : CallFault) : ServerFailure :=
  { kind := fault.kind
    message := fault.message
    code :=
      match fault with
      | .answered code _ => some code
      | _ => none }

end CallFault

/-! ## Warnings and the critical failure -/

/-- Failures told apart by whether they abort the response. -/
structure FailureSplit where
  /-- The failures that only degrade the response, in order. -/
  warnings : List ServerFailure
  /-- The first critical failure. -/
  critical : Option ServerFailure
deriving DecidableEq

namespace FailureSplit

/-- No failures. -/
def empty : FailureSplit :=
  { warnings := [], critical := none }

/-- One more failure. Of the critical ones only the first is kept. -/
def push (split : FailureSplit) (failure : ServerFailure) : FailureSplit :=
  if failure.isCritical then
    { split with critical := split.critical <|> some failure }
  else { split with warnings := split.warnings ++ [failure] }

/-- All of some failures. -/
def ofList (failures : List ServerFailure) : FailureSplit :=
  failures.foldl push empty

/-- The warnings, or the critical failure. -/
def result (split : FailureSplit) : Except ServerFailure (List ServerFailure) :=
  match split.critical with
  | some failure => .error failure
  | none => .ok split.warnings

private theorem foldl_push (failures : List ServerFailure) (split : FailureSplit) :
    failures.foldl push split =
      { warnings := split.warnings ++ failures.filter (!·.isCritical)
        critical := split.critical <|> failures.find? (·.isCritical) } := by
  induction failures generalizing split with
  | nil => cases h : split.critical <;> simp [← h]
  | cons failure rest ih =>
    rw [List.foldl_cons, ih]
    by_cases hc : failure.isCritical = true
    · cases h : split.critical <;> simp [push, hc, h]
    · simp only [Bool.not_eq_true] at hc
      simp [push, hc]

/-- The warnings are the non-critical failures, and the critical one is the first of its like. -/
theorem ofList_eq (failures : List ServerFailure) :
    ofList failures =
      { warnings := failures.filter (!·.isCritical)
        critical := failures.find? (·.isCritical) } := by
  simp [ofList, foldl_push, empty]

end FailureSplit

end FleetDashboard
