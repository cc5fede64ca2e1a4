import FleetDashboard.ApiServer.Objects
import FleetDashboard.Caller.Authentication

/-!
# Token reviews

The control plane is asked whose credential a token is. The answer counts only if the token was
accepted and a name comes with it.

* `TokenReview.Status`: what the server says of a token.
* `TokenReview.Status.username`: the name, or why there is none.
* `ApiClient.usernameResolver`: the resolver that asks through a transport.
-/

namespace FleetDashboard

namespace TokenReview

/-- The version of reviews. -/
def apiVersion : String := "authentication.k8s.io/v1"

/-- The name of the kind. -/
def kindName : String := "TokenReview"

/-- Where reviews are created. -/
def path : String := "/apis/" ++ apiVersion ++ "/tokenreviews"

/-- The method of requests that create. -/
def method : String := "POST"

/-- The review of a token. -/
def document (token : String) : Json :=
  .obj [("apiVersion", .str apiVersion), ("kind", .str kindName), ("metadata", .obj []),
    ("spec", .obj [("token", .str token)])]

/-! ## Shapes -/

/-- Users. -/
def shapeOfUser : Shape :=
  .record "UserInfo" [
    .may "extra" (.map .texts), .may "groups" .texts, .may "uid" .text, .may "username" .text]

/-- What the server says. -/
def shapeOfStatus : Shape :=
  .record "TokenReviewStatus" [
    .may "audiences" .texts, .may "authenticated" .boolean, .may "error" .text,
    .may "user" shapeOfUser]

/-- What was asked. -/
def shapeOfQuestion : Shape :=
  .record "TokenReviewSpec" [.may "audiences" .texts, .may "token" .text]

/-! ## Answers -/

/-- What the server says of a token. -/
structure Status where
  /-- Whether the token was accepted. -/
  authenticated : Bool
  /-- Why it was not, if that is said. -/
  error : Option String
  /-- Whose token it is, if that is said. -/
  user : Option String
deriving DecidableEq

namespace Status

/-- What the server says in some fields. -/
def ofFields (fields : Fields) : Status :=
  { authenticated := (fields.shown? "authenticated" Decoder.boolean).getD false
    error := fields.shown? "error" Decoder.text
    user := (fields.record? "user").bind (·.shown? "username" Decoder.text) }

/-- The name of the user, or why there is none. -/
def username (status : Status) : Except ClientError String :=
  if !status.authenticated then
    .error (.unauthorized (status.error.getD "token authentication failed"))
  else
    match status.user.filter (· ≠ "") with
    | some name => .ok name
    | none => .error (.unauthorized "token review returned no username")

end Status

/-- What an answer to a review has besides the fields about its type. -/
def members : List Member :=
  [.metadata, .may "spec" shapeOfQuestion, .may "status" shapeOfStatus]

/-- Reads the answer to a review. -/
def decode : Decoder (Option Status) :=
  Decoder.record kindName fun fields => do
    TypeFields.scan apiVersion kindName members fields
    return (fields.record? "status").map Status.ofFields

/-- The name that an answer tells. -/
def usernameOf : Option Status → Except ClientError String
  | some status => status.username
  | none => .error (.construction "TokenReview returned no status")

end TokenReview

namespace ApiClient

/-- The request that reviews a token. -/
def reviewRequest (client : ApiClient) (token : String) : Except CallFault ApiRequest :=
  client.request TokenReview.method TokenReview.path (some (TokenReview.document token))

/-- The name of the user whose token it is. -/
def reviewToken (client : ApiClient) (transport : Transport) (token : String) :
    Except ClientError String := do
  let answer := do
    let request ← client.reviewRequest token
    transport.fetch request TokenReview.decode
  let status ← answer.mapError fun fault => ClientError.server fault.toFailure
  TokenReview.usernameOf status

/-- The resolver that reviews tokens. -/
def usernameResolver (client : ApiClient) (transport : Transport) : UsernameResolver :=
  client.reviewToken transport

end ApiClient

end FleetDashboard
