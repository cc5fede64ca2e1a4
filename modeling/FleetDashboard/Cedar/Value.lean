import FleetDashboard.Cedar.Address
import FleetDashboard.Cedar.Entity

/-!
# Values in policies

What an expression of a policy comes to: truth values, whole numbers of 64 bits, texts, entities,
sets, records, and the values of the extensions for decimals, addresses, moments and durations.

* `Value.same`: whether two values are equal; sets are equal when each holds what the other holds.
-/

namespace FleetDashboard.Cedar

/-- A value. -/
inductive Value where
  /-- A truth value. -/
  | bool (b : Bool)
  /-- A whole number. -/
  | int (n : Int)
  /-- A text. -/
  | text (s : String)
  /-- An entity. -/
  | entity (e : Entity)
  /-- A set, by its members in any order and number. -/
  | set (items : List Value)
  /-- A record, by its fields in order of the names, each name once. -/
  | record (fields : List (String × Value))
  /-- A decimal, in units of a ten-thousandth. -/
  | decimal (units : Int)
  /-- An internet address or a range of them. -/
  | address (range : AddressRange)
  /-- A moment, in milliseconds since the start of 1970. -/
  | moment (ms : Int)
  /-- A duration in milliseconds. -/
  | duration (ms : Int)

namespace Value

/-- Whether a number fits 64 bits with a sign. -/
def fits (n : Int) : Bool :=
  -9223372036854775808 ≤ n && n ≤ 9223372036854775807

/-- A whole number, if it fits. -/
def ofInt? (n : Int) : Option Value :=
  if fits n then some (.int n) else none

/-- The truth value. -/
def toBool? : Value → Option Bool
  | .bool b => some b
  | _ => none

/-- The whole number. -/
def toInt? : Value → Option Int
  | .int n => some n
  | _ => none

/-- The text. -/
def toText? : Value → Option String
  | .text s => some s
  | _ => none

/-- The entity. -/
def toEntity? : Value → Option Entity
  | .entity e => some e
  | _ => none

/-- The members of the set. -/
def toSet? : Value → Option (List Value)
  | .set items => some items
  | _ => none

mutual

/-- Whether two values are equal. Values of different types are not. -/
def same : Value → Value → Bool
  | .bool a, .bool b => a == b
  | .int a, .int b => a == b
  | .text a, .text b => a == b
  | .entity a, .entity b => a == b
  | .set xs, .set ys => allIn xs ys && ys.all fun y => isIn xs y
  | .record xs, .record ys => sameFields xs ys
  | .decimal a, .decimal b => a == b
  | .address a, .address b => a == b
  | .moment a, .moment b => a == b
  | .duration a, .duration b => a == b
  | _, _ => false

/-- Whether the values are all among others. -/
def allIn : List Value → List Value → Bool
  | [], _ => true
  | x :: xs, ys => (ys.any fun y => same x y) && allIn xs ys

/-- Whether a value is among the values. -/
def isIn : List Value → Value → Bool
  | [], _ => false
  | x :: xs, y => same x y || isIn xs y

/-- Whether fields in order of their names are equal. -/
def sameFields : List (String × Value) → List (String × Value) → Bool
  | [], [] => true
  | (a, x) :: xs, (b, y) :: ys => a == b && same x y && sameFields xs ys
  | _, _ => false

end

end Value

end FleetDashboard.Cedar
