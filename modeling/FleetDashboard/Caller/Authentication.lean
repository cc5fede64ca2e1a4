import FleetDashboard.Caller.Identity
import FleetDashboard.ClientError
import FleetDashboard.Time.Wait

/-!
# Authentication

A request is authenticated by the credential in its headers, or else by the fallback credential in
a store. The username is the impersonated user, or the one that a resolver knows for the
credential; a resolver that fails leaves it open, one that rejects the credential rejects the
request.
-/

namespace FleetDashboard

/-- A store of credentials: how the look-up of a key ends. -/
abbrev CredentialStore := String → Wait (Except ClientError (Option String))

/-- Finds the username of a credential. -/
abbrev UsernameResolver := String → Except ClientError String

/-- How requests are authenticated. -/
structure Authenticator where
  /-- Where the fallback credential is kept. -/
  store : Option CredentialStore
  /-- Who knows the usernames. -/
  resolver : Option UsernameResolver
  /-- How long a look-up in the store may take, in milliseconds. -/
  lookupTimeout : Nat

/-- Whom authentication asked. -/
inductive Consultation where
  /-- The store, for the fallback credential. -/
  | store
  /-- The resolver, for the username of a credential. -/
  | resolver (token : String)
deriving DecidableEq

namespace Authenticator

/-- The key of the fallback credential. -/
def fallbackKey : String := "service-account-token"

/-- How long a look-up may take when nothing else is set. -/
def standardLookupTimeout : Nat := 5000

/-- The fallback credential; a failed, late or empty look-up yields none. -/
def fallbackToken (auth : Authenticator) : Task Consultation (Option String) :=
  match auth.store with
  | none => .done none
  | some store => fun now =>
    let timed := (Scope.lasting now auth.lookupTimeout).await now (store fallbackKey)
    let token :=
      match timed.value with
      | .result (.ok token) => token.filter (· ≠ "")
      | _ => none
    ⟨token, timed.finish, [.store]⟩

/-- The identity with its username, which is looked up unless it is there. -/
def resolve (auth : Authenticator) (identity : Identity) :
    Task Consultation (Except ClientError Identity) :=
  match identity.username, auth.resolver with
  | some _, _ => .done (.ok identity)
  | none, none => .done (.ok identity)
  | none, some resolver => fun now =>
    let outcome :=
      match resolver identity.token with
      | .ok username => .ok (identity.named username)
      | .error (.unauthorized reason) => .error (.unauthorized reason)
      | .error _ => .ok identity
    ⟨outcome, now, [.resolver identity.token]⟩

/-- The identity of a request. -/
def authenticate (auth : Authenticator) (headers : Headers) :
    Task Consultation (Except ClientError Identity) :=
  match Identity.ofHeaders? headers with
  | some identity => auth.resolve identity
  | none =>
    auth.fallbackToken.andThen fun token =>
      match token with
      | some token => auth.resolve (.ofToken token)
      | none => .done (.error (.unauthorized "no credential presented"))

end Authenticator

end FleetDashboard
