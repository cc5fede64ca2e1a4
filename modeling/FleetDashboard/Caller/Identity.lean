import FleetDashboard.Caller.Headers
import FleetDashboard.StableSort
import FleetDashboard.Text.Quoted

/-!
# The caller's identity

Who a request acts as: a credential, the user it impersonates, and the username on which access
decisions rest. `Identity.ofHeaders?` reads it from the headers of the request.
-/

namespace FleetDashboard

/-- The user that a request acts as in place of its own. -/
structure Impersonation where
  /-- The acting user. -/
  user : String
  /-- The acting groups, in order of arrival. -/
  groups : List String
  /-- Further attributes by canonical key, in order of the keys. -/
  extra : List (String × List String)
deriving DecidableEq

/-- Who a request acts as. -/
structure Identity where
  /-- The credential. -/
  token : String
  /-- The impersonated user. -/
  impersonation : Option Impersonation
  /-- The username for access decisions. -/
  username : Option String
deriving DecidableEq

namespace Identity

/-- An identity that holds a credential only. -/
def ofToken (token : String) : Identity :=
  { token, impersonation := none, username := none }

/-- Acting as another user, who also becomes the username. -/
def impersonating (identity : Identity) (impersonation : Impersonation) : Identity :=
  { identity with impersonation := some impersonation, username := some impersonation.user }

/-- With the username resolved. -/
def named (identity : Identity) (username : String) : Identity :=
  { identity with username := some username }

/-! ## Reading headers -/

/-- The header that carries the credential. -/
def authorizationHeader : String := "authorization"

/-- What stands in front of a credential. -/
def bearerLead : String := "Bearer "

/-- The header that names the acting user. -/
def userHeader : String := "impersonate-user"

/-- The header that names an acting group. -/
def groupHeader : String := "impersonate-group"

/-- What stands in front of an attribute's key in its header's name. -/
def extraLead : String := "impersonate-extra-"

/-- The credential of the first authorization header; there has to be something behind the lead. -/
def bearer? (headers : Headers) : Option String :=
  (headers.first? authorizationHeader).bind fun value =>
    (Text.stripLead? bearerLead value).filter (· ≠ "")

/-- A key with its words capitalised; words are what hyphens part. -/
def canonicalChars (startsWord : Bool) : List Char → List Char
  | [] => []
  | c :: cs => (if startsWord then c.toUpper else c.toLower) :: canonicalChars (c = '-') cs

/-- The canonical form of an attribute's key: `acme.io-scopes` becomes `Acme.io-Scopes`. -/
def canonicalKey (key : String) : String :=
  String.ofList (canonicalChars true key.toList)

/-- The key in an attribute header's name. -/
def extraKey? (name : String) : Option String :=
  (Text.stripLead? extraLead name).filter (· ≠ "")

/-- Attributes in the order of their keys. -/
def sortExtra (extra : List (String × List String)) : List (String × List String) :=
  stableSort (fun a b => Text.compare a.1 b.1) extra

/-- The attributes that headers carry, with the readable values of each. -/
def extraOf (headers : Headers) : List (String × List String) :=
  sortExtra (headers.names.filterMap fun name =>
    (extraKey? name).map fun key => (canonicalKey key, headers.readable name))

/-- The impersonation that headers ask for. Without an acting user there is none, whatever groups
and attributes they carry. -/
def impersonation? (headers : Headers) : Option Impersonation :=
  ((headers.first? userHeader).filter (· ≠ "")).map fun user =>
    { user, groups := headers.readable groupHeader, extra := extraOf headers }

/-- The identity that headers carry, if they carry a credential. -/
def ofHeaders? (headers : Headers) : Option Identity :=
  (bearer? headers).map fun token =>
    match impersonation? headers with
    | some impersonation => (ofToken token).impersonating impersonation
    | none => ofToken token

/-! ## The text for logs -/

/-- Texts in quotes between brackets. -/
def quotedList (items : List String) : String :=
  "[" ++ ", ".intercalate (items.map Text.quote) ++ "]"

/-- The text of an impersonation. -/
def impersonationText (impersonation : Impersonation) : String :=
  let extra := impersonation.extra.map fun (key, values) =>
    Text.quote key ++ ": " ++ quotedList values
  "Impersonation \x7b user: " ++ Text.quote impersonation.user ++ ", groups: "
    ++ quotedList impersonation.groups ++ ", extra: \x7b" ++ ", ".intercalate extra
    ++ "\x7d \x7d"

/-- An optional text in the notation of logs. -/
def optionText : Option String → String
  | some s => "Some(" ++ s ++ ")"
  | none => "None"

/-- The text of an identity. It never shows the credential. -/
def logText (identity : Identity) : String :=
  "AuthIdentity \x7b token: \"<redacted>\", impersonation: "
    ++ optionText (identity.impersonation.map impersonationText) ++ ", username: "
    ++ optionText (identity.username.map Text.quote) ++ " \x7d"

end Identity

end FleetDashboard
