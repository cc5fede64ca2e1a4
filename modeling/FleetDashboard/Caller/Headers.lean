import FleetDashboard.Text.Pieces

/-!
# Request headers

The headers of a request in the order in which they arrived. Names do not depend on capitals. A
value is readable as text when it holds visible ASCII, blanks and tabs only.
-/

namespace FleetDashboard

/-- The headers of a request, in order of arrival. -/
abbrev Headers := List (String × String)

namespace Headers

/-- Whether a character may stand in a header name. -/
def isNameChar (c : Char) : Bool :=
  c.isAlphanum || "!#$%&'*+-.^_`|~".toList.contains c

/-- Whether a text can name a header. -/
def isName (name : String) : Bool :=
  name ≠ "" && name.toList.all isNameChar

/-- Whether a text can be the value of a header. -/
def isValue (value : String) : Bool :=
  value.toList.all fun c => c = '\t' || (0x20 ≤ c.toNat && c.toNat ≠ 0x7F)

/-- Whether the value of a header can be read as text. -/
def isReadable (value : String) : Bool :=
  value.toList.all fun c => c = '\t' || (0x20 ≤ c.toNat && c.toNat < 0x7F)

/-- The values under a name given in small letters, in order. -/
def values (headers : Headers) (name : String) : List String :=
  (headers.filter fun h => Text.asciiLower h.1 == name).map (·.2)

/-- The readable values under a name, in order. -/
def readable (headers : Headers) (name : String) : List String :=
  (headers.values name).filter isReadable

/-- The first value under a name, if there is one and it can be read. -/
def first? (headers : Headers) (name : String) : Option String :=
  ((headers.values name).head?).filter isReadable

/-- The names in small letters, each once, in order of first arrival. -/
def names (headers : Headers) : List String :=
  (headers.map fun h => Text.asciiLower h.1).eraseDups

end Headers

end FleetDashboard
