import FleetDashboard.Number.Shortest
import FleetDashboard.Text.Pieces
import FleetDashboard.Time.Instant

/-!
# Values of properties

What a property of an item may hold, how two values are ordered, and the text in which a filter term
is looked for.
-/

namespace FleetDashboard.Selection

/-- The value of a property. -/
inductive Value where
  /-- Text. -/
  | str (s : String)
  /-- A 64-bit whole number. -/
  | int (n : Int64)
  /-- A double. -/
  | double (x : Double)
  /-- A moment. -/
  | time (t : Instant)
deriving DecidableEq

namespace Value

/-- The text of a value. -/
def text : Value → String
  | .str s => s
  | .int n => toString n.toInt
  | .double x => Number.shortestText x
  | .time t => t.offsetText

/-- The order of two values: texts by code point, whole numbers and doubles by size, moments
chronologically. A whole number meets a double as the nearest double; values of other different
sorts are ordered by their texts. -/
def compare : Value → Value → Ordering
  | .str a, .str b => Text.compare a b
  | .int a, .int b => Ord.compare a.toInt b.toInt
  | .time a, .time b => Instant.compare a b
  | .double a, .double b => Double.compare a b
  | .int a, .double b => Double.compare (Double.ofInt64 a) b
  | .double a, .int b => Double.compare a (Double.ofInt64 b)
  | a, b => Text.compare a.text b.text

/-- Whether the value's text holds a term. -/
def contains (value : Value) (term : String) : Bool :=
  Text.occursIn term.toList value.text.toList

end Value

end FleetDashboard.Selection
