import FleetDashboard.ApiServer.Objects
import FleetDashboard.Caller.Authentication
import FleetDashboard.Clients.Registry
import FleetDashboard.Kubernetes.Configuration
import FleetDashboard.Text.Utf8

/-!
# The secret that holds credentials

The fallback credential is kept in a secret of a fixed name. Each key of the secret is a key of the
store; its bytes count before its texts.

* `Secret.text?`: the text under a key.
* `SecretStore.lookUp`: the text under a key, as a transport brings it.
-/

namespace FleetDashboard

/-- The text under a key of a secret. Bytes that are not UTF-8 are no text, even if there is a text
under the key as well. -/
def Secret.text? (secret : Secret) (key : String) : Option String :=
  match (secret.data.getD []).lookup key with
  | some bytes => (Text.Utf8.decode? bytes).map String.ofList
  | none => (secret.stringData.getD []).lookup key

namespace SecretStore

/-- The name of the secret. -/
def secretName : String := "karmada-dashboard"

/-- The request for the secret. -/
def request (store : SecretStore) : Except CallFault ApiRequest :=
  store.handle.client.getRequest .secret (some store.inNamespace) secretName

/-- The secret. -/
def secret (store : SecretStore) (transport : Transport) : Except CallFault Secret := do
  transport.fetch (← store.request) readDirect

/-- The text under a key; there is none if there is no secret. -/
def lookUp (store : SecretStore) (transport : Transport) (key : String) :
    Except ClientError (Option String) :=
  match store.secret transport with
  | .ok secret => .ok (secret.text? key)
  | .error fault =>
    if fault.kind = .notFound then .ok none else .error (.server fault.toFailure)

/-- The store of credentials that is read through a transport. -/
def credentials (store : SecretStore) (transport : Transport) : CredentialStore :=
  fun key => .done (store.lookUp transport key)

end SecretStore

end FleetDashboard
