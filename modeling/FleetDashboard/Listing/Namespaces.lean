import FleetDashboard.Text.Pieces

/-!
# Namespaces of a listing

The namespaces that a listing is restricted to. None means all of them; exactly one is asked for
directly; several are listed everywhere and picked out afterwards.
-/

namespace FleetDashboard

/-- The namespaces wanted; none for all. -/
structure Namespaces where
  /-- Their names, none of them empty. -/
  names : List String
deriving DecidableEq

namespace Namespaces

/-- Every namespace. -/
def all : Namespaces :=
  { names := [] }

/-- The given namespaces; empty names do not count. -/
def ofList (names : List String) : Namespaces :=
  { names := names.filter (· ≠ "") }

/-- The namespaces of a comma-separated text. -/
def parse (raw : Option String) : Namespaces :=
  ofList (Text.splitString ',' (raw.getD ""))

/-- The namespace to ask for directly, if there is exactly one. -/
def single? (wanted : Namespaces) : Option String :=
  match wanted.names with
  | [only] => some only
  | _ => none

/-- Whether an object in the given namespace, or in none, is wanted. -/
def admits (wanted : Namespaces) (ns : Option String) : Bool :=
  wanted.names.isEmpty ||
    match ns with
    | some name => wanted.names.contains name
    | none => false

end Namespaces

end FleetDashboard
