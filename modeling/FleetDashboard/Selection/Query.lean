import FleetDashboard.Selection.Property
import FleetDashboard.Text.Quoted

/-!
# Selection queries

Which items of a listing are wanted, in which order, and which page of them. Filters and sort keys
are written as comma-separated pairs, `name,db,status,Running` and `d,creationTimestamp,a,name`.

`Query.filterText` and `Query.sortText` write a query back.
-/

namespace FleetDashboard.Selection

/-- A filter: the property's text has to hold the term. -/
structure Filter where
  /-- The property. -/
  property : Property
  /-- The term. -/
  term : String
deriving DecidableEq

/-- A sort key. -/
structure SortKey where
  /-- The property. -/
  property : Property
  /-- Whether smaller values come first. -/
  ascending : Bool
deriving DecidableEq

/-- A page of the selected items. -/
structure Page where
  /-- Items on a page; zero for no pages. -/
  size : Nat
  /-- The page's number, from 1. -/
  number : Nat
deriving DecidableEq

/-- A selection query. -/
structure Query where
  /-- The filters; all have to hold. -/
  filters : List Filter
  /-- The sort keys; earlier ones decide first. -/
  sorts : List SortKey
  /-- The page. -/
  page : Page
deriving DecidableEq

/-- Why a query text is refused. -/
inductive QueryFlaw where
  /-- A parameter whose pieces do not make pairs. -/
  | oddPieces (parameter : String)
  /-- A sort direction that is neither `a` nor `d`. -/
  | direction (given : String)
deriving DecidableEq

/-- The wording of a flaw. -/
def QueryFlaw.message : QueryFlaw → String
  | .oddPieces parameter =>
    parameter ++ " must hold an even number of comma-separated values"
  | .direction given => "sort direction must be 'a' or 'd', got " ++ Text.quote given

/-- Neighbours as pairs; nothing if one is left over. -/
def pairUp {α : Type} : List α → Option (List (α × α))
  | [] => some []
  | [_] => none
  | a :: b :: rest => (pairUp rest).map ((a, b) :: ·)

/-- The comma-separated pairs of a parameter; an empty text has none. -/
def pairs (parameter raw : String) : Except QueryFlaw (List (String × String)) :=
  if raw = "" then .ok []
  else
    match pairUp (Text.splitString ',' raw) with
    | some ps => .ok ps
    | none => .error (.oddPieces parameter)

/-- The sort key of a direction and a property. -/
def SortKey.ofPair (direction property : String) : Except QueryFlaw SortKey :=
  if direction = "a" then .ok { property := .parse property, ascending := true }
  else if direction = "d" then .ok { property := .parse property, ascending := false }
  else .error (.direction direction)

/-- The filters of pairs; a pair without a term filters nothing. -/
def Filter.ofPairs (ps : List (String × String)) : List Filter :=
  (ps.filter fun (_, term) => term ≠ "").map fun (property, term) =>
    { property := .parse property, term }

namespace Query

/-- The query that selects everything as it is. -/
def everything : Query :=
  { filters := [], sorts := [], page := { size := 0, number := 0 } }

/-- The query of the given parameters; without a page it is the first, without a size there are no
pages. -/
def parse (filterBy sortBy : Option String) (size number : Option Nat) :
    Except QueryFlaw Query := do
  let filterPairs ← pairs "filterBy" (filterBy.getD "")
  let sortPairs ← pairs "sortBy" (sortBy.getD "")
  let sorts ← sortPairs.mapM fun (direction, property) => SortKey.ofPair direction property
  return {
    filters := Filter.ofPairs filterPairs
    sorts
    page := { size := size.getD 0, number := number.getD 1 } }

/-- Texts with a comma between neighbours. -/
def commaJoin (pieces : List String) : String :=
  String.ofList (Text.join ',' (pieces.map String.toList))

/-- The filter parameter that says what the query says. -/
def filterText (query : Query) : String :=
  commaJoin (query.filters.flatMap fun f => [f.property.text, f.term])

/-- The sort parameter that says what the query says. -/
def sortText (query : Query) : String :=
  commaJoin (query.sorts.flatMap fun k => [if k.ascending then "a" else "d", k.property.text])

end Query

end FleetDashboard.Selection
