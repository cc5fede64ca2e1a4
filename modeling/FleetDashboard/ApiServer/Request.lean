import FleetDashboard.ApiServer.Client
import FleetDashboard.Kubernetes.Document
import FleetDashboard.ServerFailure

/-!
# Requests to API servers

A client turns a resource path into a request, a transport carries it, and the reply holds the value
that was asked for or tells of a fault.

* `ApiRequest`, `ApiReply`: what is sent and what comes back.
* `Transport`: what carries requests.
* `ApiClient.request`: the request for a resource path; the path has to be legal.
* `ApiReply.value`: the value in a reply. A reply with an error status is a fault, with the code and
  message that its body tells or else with those of the reply itself.
-/

namespace FleetDashboard

/-! ## Requests and replies -/

/-- A request to an API server. -/
structure ApiRequest where
  /-- The method. -/
  method : String
  /-- The address, with the path and query on the server. -/
  address : Uri
  /-- The headers, their names in small letters. -/
  headers : List (String × String)
  /-- The document that is sent along, if there is one. -/
  body : Option Json

/-- The path of a request on the server. -/
def ApiRequest.path (request : ApiRequest) : String :=
  request.address.path

/-- The reply of an API server. -/
structure ApiReply where
  /-- The status. -/
  status : Nat
  /-- The body as it came. -/
  body : String

/-- What carries requests to API servers. -/
structure Transport where
  /-- The reply to a request, or why the connection failed. -/
  send : ApiRequest → Except String ApiReply
  /-- What a command that is run in a container writes. -/
  exec : ApiRequest → Except ServerFailure String

/-- The transport on which every connection fails. -/
def Transport.unreachable (reason : String) : Transport :=
  { send := fun _ => .error reason
    exec := fun _ => .error (CallFault.connection reason).toFailure }

/-! ## Replies with an error status -/

/-- What a server says of a request that failed. -/
structure ErrorStatus where
  /-- The code. -/
  code : Nat
  /-- The message. -/
  message : String
deriving DecidableEq

namespace ErrorStatus

/-- Codes are numbers of 16 bits. -/
def codeLimit : Nat := 65536

/-- A text field that stands for the empty text when it is absent. -/
def text? (fields : List (String × Json)) (name : String) : Option String :=
  match Json.lookup name fields with
  | some value => value.str?
  | none => some ""

/-- The names of the fields that tell something. -/
def names : List String := ["status", "message", "reason", "code"]

/-- What the body of a reply says. It has to be a record with a status and a code, and none of its
fields may stand twice. -/
def ofBody? (body : String) : Option ErrorStatus := do
  let fields ← (← Json.readAll? body.toList).record? names
  guard (names.all fun name => (fields.filter (·.1 == name)).length ≤ 1)
  let _ ← (Json.lookup "status" fields).bind Json.str?
  let _ ← text? fields "reason"
  let message ← text? fields "message"
  let code ← (Json.lookup "code" fields).bind Json.nat?
  if code < codeLimit then some { code, message } else none

end ErrorStatus

namespace ApiReply

/-- Whether the status of a reply tells of an error, on this side or on that of the server. -/
def isError (reply : ApiReply) : Bool :=
  400 ≤ reply.status && reply.status < 600

/-- The fault that a reply with an error status tells of. A body that does not tell is itself the
message, in quotes. -/
def fault (reply : ApiReply) : CallFault :=
  match ErrorStatus.ofBody? reply.body with
  | some status => .answered status.code status.message
  | none => .answered reply.status (Text.quote reply.body)

/-- The value in a reply. -/
def value {α : Type} (decode : Decoder α) (reply : ApiReply) : Except CallFault α :=
  if reply.isError then .error reply.fault
  else (decode.ofText reply.body).mapError fun flaw => .answer flaw.message

end ApiReply

/-! ## Sending -/

/-- The value that answers a request. -/
def Transport.fetch {α : Type} (transport : Transport) (request : ApiRequest) (decode : Decoder α) :
    Except CallFault α :=
  match transport.send request with
  | .ok reply => reply.value decode
  | .error reason => .error (.connection reason)

/-- The address of a resource: its path follows that of the server's own address. -/
def Uri.below (base resource : Uri) : Uri :=
  { base with
    writtenPath := Text.trimEnd '/' base.path ++ resource.path
    query := resource.query }

/-- The request for a resource path. -/
def ApiClient.request (client : ApiClient) (method resourcePath : String) (body : Option Json) :
    Except CallFault ApiRequest :=
  match Uri.parse resourcePath with
  | .ok target =>
    .ok {
      method
      address := client.address.below target
      headers := client.headers
      body }
  | .error flaw => .error (.request ("failed to build request: " ++ flaw.message))

end FleetDashboard
