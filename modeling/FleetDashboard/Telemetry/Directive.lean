import FleetDashboard.Telemetry.Pattern
import FleetDashboard.Text.Blank

/-!
# Directives of a log filter

A filter is a list of directives with commas between them. A directive names a level, or what it
applies to and perhaps a level for that: `info`, `api=debug`, `api[request{user=alice}]=trace`.

A directive is read character by character. The blanks around it are not read, but the places of
its marks are counted without them while its parts are cut from the whole text, so that blanks in
front shift every part and blanks behind belong to the last one.

* `Directive`: what a directive asks for.
* `Directive.parse?`: the directive that a text writes, if it writes one.
* `isFilter`: whether a text is a filter.
-/

namespace FleetDashboard.Telemetry

/-! ## Levels -/

/-- How much is logged. -/
inductive Level where
  | off
  | error
  | warn
  | info
  | debug
  | trace
deriving DecidableEq

namespace Level

/-- The levels in the order of their numbers. -/
def all : List Level := [.off, .error, .warn, .info, .debug, .trace]

/-- The name of a level. -/
def name : Level → String
  | .off => "off"
  | .error => "error"
  | .warn => "warn"
  | .info => "info"
  | .debug => "debug"
  | .trace => "trace"

/-- The number that digits write, perhaps behind a plus sign. -/
def number? (cs : List Char) : Option Nat :=
  Text.decimal? (if cs.head? = some '+' then cs.drop 1 else cs)

/-- The level of a number, or of a name, capitals or not. -/
def ofText? (cs : List Char) : Option Level :=
  match number? cs with
  | some n => all[n]?
  | none => all.find? fun level => level.name == Text.asciiLower (String.ofList cs)

end Level

/-! ## Tests of fields -/

/-- What a directive asks of a field: that it is there, perhaps with a value. -/
structure FieldTest where
  /-- The name of the field. -/
  name : List Char
  /-- The value, or a pattern for it. -/
  value : Option (List Char)
deriving DecidableEq

namespace FieldTest

/-- What follows the digits in front of a text, and whether there are any. -/
def afterDigits (cs : List Char) : Bool × List Char :=
  (cs.head?.any (·.isDigit), cs.dropWhile (·.isDigit))

/-- Whether a text without a sign is a number: digits with a point and an exponent, or the name of
a number that is not finite. -/
def isUnsigned (cs : List Char) : Bool :=
  if ["inf", "infinity", "nan"].contains (Text.asciiLower (String.ofList cs)) then true
  else
    let (whole, rest) := afterDigits cs
    let (part, rest) :=
      match rest with
      | '.' :: more => afterDigits more
      | _ => (false, rest)
    (whole || part) &&
      match rest with
      | [] => true
      | e :: more =>
        let digits := if ['+', '-'].any (more.head? == some ·) then more.drop 1 else more
        (e = 'e' || e = 'E') && !digits.isEmpty && digits.all (·.isDigit)

/-- Whether a value can be tested for. A number with a plus sign is one that is no pattern. -/
def isValue (cs : List Char) : Bool :=
  Pattern.isPattern cs || (cs.head? == some '+' && isUnsigned (cs.drop 1))

/-- The test that a text writes: a name, perhaps an equals sign and a value. What stands behind a
second equals sign does not count. -/
def ofText? (cs : List Char) : Option FieldTest :=
  if cs.isEmpty then none
  else
    match Text.split '=' cs with
    | name :: value :: _ => if isValue value then some { name, value := some value } else none
    | _ => some { name := cs, value := none }

end FieldTest

/-! ## Directives -/

/-- What is logged, and how much of it. -/
structure Directive where
  /-- The part of the program, or all of it. -/
  target : Option (List Char)
  /-- The span around the log line, or any. -/
  span : Option (List Char)
  /-- What is asked of the fields of the span. -/
  fields : List FieldTest
  /-- The level; everything, unless it is named. -/
  level : Level
deriving DecidableEq

namespace Directive

/-- The directive that names nothing and logs everything. -/
def empty : Directive :=
  { target := none, span := none, fields := [], level := .trace }

/-- Where in a directive one is, with the place in which the present part starts. -/
inductive Place where
  /-- In front of everything. -/
  | start
  /-- In a name at the front, of a target or of a level. -/
  | name (start : Nat)
  /-- In the name of a span. -/
  | span (start : Nat)
  /-- In the test of a field. -/
  | field (start : Nat)
  /-- Behind the tests of fields. -/
  | fields
  /-- Behind the span. -/
  | target
  /-- In the level. -/
  | level (start : Nat)
deriving DecidableEq

/-- The bytes that a text takes. -/
def byteCount (cs : List Char) : Nat :=
  cs.foldl (fun n c => n + c.utf8Size) 0

/-- A text from a place on, counted in bytes. -/
def dropBytes (count : Nat) : List Char → List Char
  | [] => []
  | c :: cs => if count = 0 then c :: cs else dropBytes (count - c.utf8Size) cs

/-- The text in front of a place, counted in bytes. -/
def takeBytes (count : Nat) : List Char → List Char
  | [] => []
  | c :: cs => if count = 0 then [] else c :: takeBytes (count - c.utf8Size) cs

/-- The part of a text between two places. -/
def cut (whole : List Char) (start stop : Nat) : List Char :=
  takeBytes (stop - start) (dropBytes start whole)

/-- Whether a directive may start with a character, unless it starts with a span. -/
def isStart (c : Char) : Bool :=
  ['-', ':', '_'].contains c || Text.isAlphanumeric c

/-- A part that has ended counts, unless it is empty. -/
def named? (part : List Char) : Option (List Char) :=
  if part.isEmpty then none else some part

/-- The next place and the directive so far, for one more character at the place `here` of the
whole text. -/
def step (whole : List Char) (here : Nat) (c : Char) (place : Place) (directive : Directive) :
    Option (Place × Directive) :=
  match place with
  | .start =>
    if c = '[' then some (.span (here + 1), directive)
    else if isStart c then some (.name here, directive)
    else none
  | .name start =>
    if c = '=' then
      some (.level (here + 1), { directive with target := some (cut whole start here) })
    else if c = '[' then
      some (.span (here + 1), { directive with target := some (cut whole start here) })
    else some (place, directive)
  | .span start =>
    if c = ']' then some (.target, { directive with span := some (cut whole start here) })
    else if c = '\x7b' then
      some (.field (here + 1), { directive with span := named? (cut whole start here) })
    else some (place, directive)
  | .field start =>
    if c = '\x7d' then do
      let test ← FieldTest.ofText? (cut whole start here)
      return (.fields, { directive with fields := directive.fields ++ [test] })
    else some (place, directive)
  | .fields => if c = ']' then some (.target, directive) else none
  | .target => if c = '=' then some (.level (here + 1), directive) else none
  | .level _ => some (place, directive)

/-- The place and the directive behind some more characters. -/
def scan (whole : List Char) (here : Nat) (place : Place) (directive : Directive) :
    List Char → Option (Place × Directive)
  | [] => some (place, directive)
  | c :: cs => do
    let (place, directive) ← step whole here c place directive
    scan whole (here + c.utf8Size) place directive cs

/-- The directive at the end of the text. A name alone is that of a level if there is such a
level; a level may be left out behind its sign. -/
def finish? (whole : List Char) (place : Place) (directive : Directive) : Option Directive :=
  match place with
  | .name start =>
    let name := dropBytes start whole
    match Level.ofText? name with
    | some level => some { directive with level, target := none }
    | none => some { directive with target := some name }
  | .level start =>
    let name := dropBytes start whole
    if name.isEmpty then some directive
    else (Level.ofText? name).map fun level => { directive with level }
  | .target => some directive
  | _ => none

/-- The directive that a text without commas writes. -/
def parse? (whole : List Char) : Option Directive := do
  let (place, directive) ← scan whole 0 .start .empty (Text.trim whole)
  finish? whole place directive

end Directive

/-- Whether a text is a log filter; empty parts between the commas do not count. -/
def isFilter (raw : String) : Bool :=
  (Text.split ',' raw.toList).all fun part => part.isEmpty || (Directive.parse? part).isSome

end FleetDashboard.Telemetry
