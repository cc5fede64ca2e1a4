import FleetDashboard.Api.Error
import FleetDashboard.Caller.Headers

/-!
# Requests and responses

What the service is asked and what it answers. Answers of the API are documents of one shape: a
code, a message and the data; all other answers are plain texts. Where the work for a request breaks
off there is no answer at all.

* `HttpRequest`: a request; `HttpRequest.isRead` tells whether its method only reads.
* `HttpResponse`: a response, with the few that are made by rule.
-/

namespace FleetDashboard

/-- A request to the service. -/
structure HttpRequest where
  /-- The method. -/
  method : String
  /-- The path as it was written. -/
  path : String
  /-- The query as it was written, if there is one. -/
  query : Option String
  /-- The headers. -/
  headers : Headers
deriving DecidableEq

namespace HttpRequest

/-- Whether the answer is to come without its body. -/
def wantsNoBody (request : HttpRequest) : Bool :=
  request.method = "HEAD"

/-- Whether the method only reads. -/
def isRead (request : HttpRequest) : Bool :=
  request.method = "GET" || request.wantsNoBody

end HttpRequest

/-- The body of a response. -/
inductive HttpContent where
  /-- A document. -/
  | document (document : Json)
  /-- A plain text. -/
  | text (text : String)
  /-- No body and no answer: the connection is closed before there is one. -/
  | broken

/-- A response of the service, or what is there in its place. -/
structure HttpResponse where
  /-- The status; zero, which no answer has, if there is no answer. -/
  status : Nat
  /-- The body. -/
  content : HttpContent

namespace HttpResponse

/-- A plain text. -/
def text (status : Nat) (text : String) : HttpResponse :=
  { status, content := .text text }

/-- There is nothing at the path. -/
def notFound : HttpResponse :=
  text 404 ""

/-- The method is not served at the path. -/
def methodNotAllowed : HttpResponse :=
  text 405 ""

/-- The request is malformed. -/
def malformed (reason : String) : HttpResponse :=
  text 400 reason

/-- The work broke off, and nothing is answered. -/
def broken : HttpResponse :=
  { status := 0, content := .broken }

/-- Data as they are answered. -/
def success (data : Json) : HttpResponse :=
  { status := 200
    content := .document
      (.obj [("code", .nat 200), ("message", .str "success"), ("data", data)]) }

/-- An error as it is answered. -/
def ofError (error : ServiceError) : HttpResponse :=
  { status := error.status, content := .document error.body }

/-- Data or the error in their place. -/
def ofResult (result : Except ResourceError Json) : HttpResponse :=
  match result with
  | .ok data => success data
  | .error error => ofError (.resource error)

/-- The response without its body, if that is wanted. -/
def fitted (request : HttpRequest) (response : HttpResponse) : HttpResponse :=
  match response.content with
  | .broken => response
  | _ => if request.wantsNoBody then text response.status "" else response

/-- Its status is the same. -/
@[simp]
theorem status_fitted (request : HttpRequest) (response : HttpResponse) :
    (response.fitted request).status = response.status := by
  unfold fitted
  split
  · rfl
  · split <;> rfl

end HttpResponse

end FleetDashboard
