import FleetDashboard.Selection.Query
import FleetDashboard.Text.Percent

/-!
# The query string of list routes

A form-encoded query selects what is listed. Four names are known, each may stand once, and two of
them take whole numbers; other names are passed over.

* `WholeNumber.read`: a natural number of 64 bits, or the first flaw in it.
* `ListParameters.parse`: the parameters of a query, or the first flaw in it.
* `ListParameters.selection`: the selection that the parameters ask for.
-/

namespace FleetDashboard

/-! ## Whole numbers -/

namespace WholeNumber

/-- What is wrong with the text of a number. -/
inductive Flaw where
  /-- There is no text. -/
  | empty
  /-- Something else than a digit. -/
  | digit
  /-- The number does not fit. -/
  | tooLarge
deriving DecidableEq

/-- The wording of a flaw. -/
def Flaw.message : Flaw → String
  | .empty => "cannot parse integer from empty string"
  | .digit => "invalid digit found in string"
  | .tooLarge => "number too large to fit in target type"

/-- Numbers have 64 bits, so they are smaller than this. -/
def limit : Nat := 18446744073709551616

/-- The digits from left to right, behind the value of those that were read. -/
def readDigits (value : Nat) : List Char → Except Flaw Nat
  | [] => .ok value
  | c :: cs =>
    if c.isDigit then
      let next := value * 10 + (c.toNat - '0'.toNat)
      if next < limit then readDigits next cs else .error .tooLarge
    else .error .digit

/-- A number, in front of which a plus may stand. -/
def readChars : List Char → Except Flaw Nat
  | [] => .error .empty
  | ['+'] => .error .digit
  | '+' :: cs => readDigits 0 cs
  | cs => readDigits 0 cs

/-- The number of a text. -/
def read (s : String) : Except Flaw Nat :=
  readChars s.toList

end WholeNumber

/-! ## Parameters -/

/-- The parameters of a list. -/
structure ListParameters where
  /-- The filters. -/
  filterBy : Option String
  /-- The sort keys. -/
  sortBy : Option String
  /-- The number of items on a page. -/
  itemsPerPage : Option Nat
  /-- The number of the page. -/
  page : Option Nat
deriving DecidableEq

/-- What is wrong with a query. -/
inductive ListParametersFlaw where
  /-- A name stands twice. -/
  | repeated (name : String)
  /-- A number is none. -/
  | number (name : String) (flaw : WholeNumber.Flaw)
deriving DecidableEq

/-- The wording of a flaw. -/
def ListParametersFlaw.message (flaw : ListParametersFlaw) : String :=
  "Failed to deserialize query string: " ++
    match flaw with
    | .repeated name =>
      let tick := String.singleton (Char.ofNat 0x60)
      "duplicate field " ++ tick ++ name ++ tick
    | .number name flaw => name ++ ": " ++ flaw.message

namespace ListParameters

/-- No parameters. -/
def empty : ListParameters :=
  { filterBy := none, sortBy := none, itemsPerPage := none, page := none }

/-- A parameter that has not been given yet. -/
def fresh {α : Type} (name : String) (given : Option α) (value : Except ListParametersFlaw α) :
    Except ListParametersFlaw (Option α) :=
  match given with
  | some _ => .error (.repeated name)
  | none => value.map some

/-- The number of a parameter. -/
def number (name value : String) : Except ListParametersFlaw Nat :=
  (WholeNumber.read value).mapError (.number name)

/-- One more pair of a query. -/
def add (parameters : ListParameters) (pair : String × String) :
    Except ListParametersFlaw ListParameters :=
  match pair with
  | ("filterBy", value) => do
    return { parameters with filterBy := ← fresh "filterBy" parameters.filterBy (.ok value) }
  | ("sortBy", value) => do
    return { parameters with sortBy := ← fresh "sortBy" parameters.sortBy (.ok value) }
  | ("itemsPerPage", value) => do
    return { parameters with
      itemsPerPage := ← fresh "itemsPerPage" parameters.itemsPerPage (number "itemsPerPage" value) }
  | ("page", value) => do
    return { parameters with page := ← fresh "page" parameters.page (number "page" value) }
  | _ => .ok parameters

/-- The parameters of a query. -/
def parse (query : String) : Except ListParametersFlaw ListParameters :=
  (Text.Percent.formPairs query).foldlM add empty

/-- The selection that the parameters ask for. -/
def selection (parameters : ListParameters) :
    Except Selection.QueryFlaw Selection.Query :=
  Selection.Query.parse parameters.filterBy parameters.sortBy parameters.itemsPerPage
    parameters.page

end ListParameters

end FleetDashboard
