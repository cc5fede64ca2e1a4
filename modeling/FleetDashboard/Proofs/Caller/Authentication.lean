import FleetDashboard.Caller.Authentication
import FleetDashboard.Proofs.Caller.Credential
import FleetDashboard.Proofs.Time.Await

/-!
# How authentication decides

A credential that a request presents decides, together with the acting user that its headers name,
and the store is never asked. Without one the credential that the store yields in time decides, and
whatever the headers say of an acting user is of no account. Without that either, the caller is
unauthorized. Whoever does not act for a user goes by the name that the resolver knows, if it knows
one; only its word that the credential is rejected ends the request.

* `Authenticator.Stores`: the store yields a credential in time.
* `Authenticator.Settles`: what becomes of a credential, and who is asked about it.
* `Authenticator.Decides`, `Authenticator.decides`: how authentication decides, and that it does so
  for all headers, stores and resolvers.
-/

namespace FleetDashboard

/-- In time within a scope that lasts some milliseconds from the start is what takes no longer. -/
theorem Scope.inTime_lasting_iff {now limit ms : Nat} :
    (Scope.lasting now limit).InTime now ms ↔ ms ≤ limit := by
  have hlive : (Scope.lasting now limit).isCancelled now = false := rfl
  have hnever : (Scope.lasting now limit).precedesCancel (now + ms) = true := rfl
  have hdeadline : (Scope.lasting now limit).deadline = now + limit := rfl
  rw [InTime, hlive, hnever, hdeadline]
  constructor
  · rintro ⟨-, hzero | ⟨hle, -⟩⟩
    · omega
    · omega
  · intro hle
    exact ⟨rfl, Or.inr ⟨by omega, rfl⟩⟩

namespace Authenticator

variable {auth : Authenticator} {headers : Headers} {token : String}
  {impersonation : Option Impersonation} {now : Nat} {error : ClientError}

/-! ## The fallback credential -/

/-- The store yields a credential under the fixed key, and in time. -/
def Stores (auth : Authenticator) (token : String) : Prop :=
  ∃ store ms, auth.store = some store ∧ store fallbackKey = .after ms (.ok (some token)) ∧
    token ≠ "" ∧ ms ≤ auth.lookupTimeout

/-- The fallback credential is the one that the store yields in time. -/
theorem fallbackToken_value_eq_some_iff :
    (auth.fallbackToken now).value = some token ↔ auth.Stores token := by
  unfold fallbackToken Stores
  cases hstore : auth.store with
  | none => simp
  | some store =>
    -- the look-up yields the credential if it ends with one that is not empty
    have hresult : (auth.fallbackToken now).value = some token ↔
        ((Scope.lasting now auth.lookupTimeout).await now (store fallbackKey)).value =
          .result (.ok (some token)) ∧ token ≠ "" := by
      simp only [fallbackToken, hstore]
      split
      next found hvalue => simp [hvalue, Option.filter_eq_some_iff]
      next hother =>
        simp only [reduceCtorEq, false_iff, not_and]
        intro hvalue
        exact absurd hvalue (hother _)
    rw [Scope.await_value_eq_result_iff] at hresult
    simp only [Scope.inTime_lasting_iff, fallbackToken, hstore] at hresult
    rw [hresult]
    constructor
    · rintro ⟨⟨ms, hanswer, hle⟩, hne⟩
      exact ⟨store, ms, rfl, hanswer, hne, hle⟩
    · rintro ⟨_, ms, ⟨rfl⟩, hanswer, hne, hle⟩
      exact ⟨⟨ms, hanswer, hle⟩, hne⟩

/-- Whoever has a store is asked for the fallback credential, and nobody else. -/
theorem fallbackToken_log (auth : Authenticator) (now : Nat) :
    (auth.fallbackToken now).log = if auth.store.isSome then [.store] else [] := by
  unfold fallbackToken
  cases auth.store <;> rfl

/-! ## Usernames -/

/-- What becomes of a credential with or without an impersonation, and who is asked about it. -/
inductive Settles (auth : Authenticator) (token : String) :
    Option Impersonation → Except ClientError Identity → List Consultation → Prop
  /-- Whoever acts for a user goes by that user's name, and nobody is asked. -/
  | acting (impersonation : Impersonation) :
    Settles auth token (some impersonation)
      (.ok {
        token
        impersonation := some impersonation
        username := some impersonation.user }) []
  /-- There is nobody to ask for a name. -/
  | unasked (hresolver : auth.resolver = none) :
    Settles auth token none (.ok { token, impersonation := none, username := none }) []
  /-- The resolver knows the name. -/
  | named (resolver : UsernameResolver) (username : String)
      (hresolver : auth.resolver = some resolver)
      (hanswer : resolver token = .ok username) :
    Settles auth token none (.ok { token, impersonation := none, username := some username })
      [.resolver token]
  /-- The resolver rejects the credential. -/
  | rejected (resolver : UsernameResolver) (reason : String)
      (hresolver : auth.resolver = some resolver)
      (hanswer : resolver token = .error (.unauthorized reason)) :
    Settles auth token none (.error (.unauthorized reason)) [.resolver token]
  /-- The resolver fails in any other way. -/
  | unnamed (resolver : UsernameResolver) (error : ClientError)
      (hresolver : auth.resolver = some resolver) (hanswer : resolver token = .error error)
      (hother : ∀ reason, error ≠ .unauthorized reason) :
    Settles auth token none (.ok { token, impersonation := none, username := none })
      [.resolver token]

/-- The name is looked up as it is to be settled. -/
theorem settles_resolve (auth : Authenticator) (token : String)
    (impersonation : Option Impersonation) (now : Nat) :
    let run := auth.resolve { token, impersonation, username := impersonation.map (·.user) } now
    auth.Settles token impersonation run.value run.log := by
  cases impersonation with
  | some impersonation => exact .acting impersonation
  | none =>
    simp only [Authenticator.resolve, Option.map_none]
    cases hresolver : auth.resolver with
    | none => exact .unasked hresolver
    | some resolver =>
      simp only
      cases hanswer : resolver token with
      | ok username => exact .named resolver username hresolver hanswer
      | error error =>
        cases error with
        | unauthorized reason => exact .rejected resolver reason hresolver hanswer
        | _ => exact .unnamed resolver _ hresolver hanswer (by simp)

/-- A credential is refused in one way only. -/
theorem Settles.eq_unauthorized {asked : List Consultation}
    (h : auth.Settles token impersonation (.error error) asked) :
    ∃ reason, error = .unauthorized reason := by
  cases h with
  | rejected resolver reason hresolver hanswer => exact ⟨reason, rfl⟩

/-- An identity holds the credential that it was settled for. -/
theorem Settles.token_eq {identity : Identity} {asked : List Consultation}
    (h : auth.Settles token impersonation (.ok identity) asked) : identity.token = token := by
  cases h <;> rfl

/-- The store is not asked about a credential. -/
theorem Settles.store_not_mem {outcome : Except ClientError Identity} {asked : List Consultation}
    (h : auth.Settles token impersonation outcome asked) : .store ∉ asked := by
  cases h <;> simp

/-! ## The decision -/

/-- How authentication decides on a request that arrives at a moment. -/
structure Decides (auth : Authenticator) (headers : Headers) (now : Nat) : Prop where
  /-- A credential that is presented decides, with the impersonation that the headers ask for. -/
  presented : ∀ token, headers.Presents token →
    auth.Settles token (Identity.impersonation? headers) (auth.authenticate headers now).value
      (auth.authenticate headers now).log
  /-- The store is not asked then. -/
  unstored : ∀ token, headers.Presents token → .store ∉ (auth.authenticate headers now).log
  /-- Otherwise the credential of the store decides, without any impersonation. -/
  stored : (∀ token, ¬ headers.Presents token) → ∀ token, auth.Stores token →
    ∃ asked, (auth.authenticate headers now).log = .store :: asked ∧
      auth.Settles token none (auth.authenticate headers now).value asked
  /-- Otherwise the caller is unauthorized. -/
  missing : (∀ token, ¬ headers.Presents token) → (∀ token, ¬ auth.Stores token) →
    (auth.authenticate headers now).value = .error (.unauthorized "no credential presented")
  /-- There is no other error. -/
  unauthorized : ∀ error, (auth.authenticate headers now).value = .error error →
    ∃ reason, error = .unauthorized reason
  /-- No identity is without a credential. -/
  nonempty : ∀ identity, (auth.authenticate headers now).value = .ok identity →
    identity.token ≠ ""

/-- A request that presents a credential is authenticated by looking up its name. -/
theorem authenticate_of_presents (h : headers.Presents token) :
    auth.authenticate headers =
      auth.resolve {
        token
        impersonation := Identity.impersonation? headers
        username := (Identity.impersonation? headers).map (·.user) } := by
  rw [authenticate, Identity.ofHeaders?_of_presents h]

/-- So it is settled what becomes of the credential. -/
theorem settles_of_presents (h : headers.Presents token) (now : Nat) :
    auth.Settles token (Identity.impersonation? headers) (auth.authenticate headers now).value
      (auth.authenticate headers now).log := by
  rw [authenticate_of_presents h]
  exact auth.settles_resolve token _ now

/-- Any other request is authenticated by the fallback credential. -/
theorem authenticate_of_not_presents (h : ∀ token, ¬ headers.Presents token) :
    auth.authenticate headers =
      auth.fallbackToken.andThen fun token =>
        match token with
        | some token => auth.resolve (.ofToken token)
        | none => .done (.error (.unauthorized "no credential presented")) := by
  unfold authenticate
  split
  next identity hidentity =>
    rw [Identity.ofHeaders?_eq_none_iff.2 h] at hidentity
    cases hidentity
  next => rfl

/-- There are three ways: a credential is presented, the store has one, or there is none. -/
theorem authenticate_cases (auth : Authenticator) (headers : Headers) (now : Nat) :
    (∃ token, headers.Presents token ∧
        auth.Settles token (Identity.impersonation? headers) (auth.authenticate headers now).value
          (auth.authenticate headers now).log) ∨
      (∀ token, ¬ headers.Presents token) ∧
        ((∃ token asked, auth.Stores token ∧
            (auth.authenticate headers now).log = .store :: asked ∧
            auth.Settles token none (auth.authenticate headers now).value asked) ∨
          (∀ token, ¬ auth.Stores token) ∧ (auth.authenticate headers now).value =
            .error (.unauthorized "no credential presented")) := by
  by_cases hpresents : ∃ token, headers.Presents token
  · obtain ⟨token, htoken⟩ := hpresents
    exact Or.inl ⟨token, htoken, settles_of_presents htoken now⟩
  · have hnone : ∀ token, ¬ headers.Presents token := fun token htoken => hpresents ⟨token, htoken⟩
    refine Or.inr ⟨hnone, ?_⟩
    rw [authenticate_of_not_presents hnone]
    simp only [Task.andThen_value, Task.andThen_log]
    cases hfallback : (auth.fallbackToken now).value with
    | some token =>
      have hstores := fallbackToken_value_eq_some_iff.1 hfallback
      have hasked : (auth.fallbackToken now).log = [.store] := by
        obtain ⟨store, ms, hstore, -⟩ := hstores
        rw [fallbackToken_log, hstore]
        rfl
      refine Or.inl ⟨token, _, hstores, ?_, auth.settles_resolve token none _⟩
      rw [hasked]
      rfl
    | none =>
      refine Or.inr ⟨fun token hstores => ?_, rfl⟩
      rw [fallbackToken_value_eq_some_iff.2 hstores] at hfallback
      cases hfallback

/-- The store yields one credential at most. -/
theorem Stores.unique {other : String} (h : auth.Stores token) (hother : auth.Stores other) :
    token = other := by
  -- it is what a look-up comes to, whenever that begins
  have htoken : (auth.fallbackToken 0).value = some token := fallbackToken_value_eq_some_iff.2 h
  have hsame : (auth.fallbackToken 0).value = some other := fallbackToken_value_eq_some_iff.2 hother
  rw [htoken, Option.some.injEq] at hsame
  exact hsame

/-- Authentication fails in one way only. -/
theorem eq_unauthorized_of_authenticate
    (h : (auth.authenticate headers now).value = .error error) :
    ∃ reason, error = .unauthorized reason := by
  rcases auth.authenticate_cases headers now with
    ⟨token, -, hsettles⟩ | ⟨-, ⟨token, asked, -, -, hsettles⟩ | ⟨-, hmissing⟩⟩
  · rw [h] at hsettles
    exact hsettles.eq_unauthorized
  · rw [h] at hsettles
    exact hsettles.eq_unauthorized
  · rw [h, Except.error.injEq] at hmissing
    exact ⟨_, hmissing⟩

/-- Whoever is authenticated holds a credential. -/
theorem token_ne_of_authenticate {identity : Identity}
    (h : (auth.authenticate headers now).value = .ok identity) : identity.token ≠ "" := by
  rcases auth.authenticate_cases headers now with
    ⟨token, hpresents, hsettles⟩ | ⟨-, ⟨token, asked, hstores, -, hsettles⟩ | ⟨-, hmissing⟩⟩
  · rw [h] at hsettles
    rw [hsettles.token_eq]
    exact hpresents.nonempty
  · rw [h] at hsettles
    obtain ⟨store, ms, -, -, hne, -⟩ := hstores
    rw [hsettles.token_eq]
    exact hne
  · rw [h] at hmissing
    cases hmissing

/-- Authentication decides so for all headers, whatever the store and the resolver do. -/
theorem decides (auth : Authenticator) (headers : Headers) (now : Nat) :
    auth.Decides headers now := by
  refine ⟨fun _ htoken => settles_of_presents htoken now,
    fun _ htoken => (settles_of_presents htoken now).store_not_mem, ?_, ?_,
    fun _ => eq_unauthorized_of_authenticate, fun _ => token_ne_of_authenticate⟩
  · intro hnone token hstores
    rcases auth.authenticate_cases headers now with
      ⟨other, hpresents, -⟩ | ⟨-, ⟨other, asked, hother, hlog, hsettles⟩ | ⟨hempty, -⟩⟩
    · exact absurd hpresents (hnone other)
    · rw [hstores.unique hother]
      exact ⟨asked, hlog, hsettles⟩
    · exact absurd hstores (hempty token)
  · intro hnone hempty
    rcases auth.authenticate_cases headers now with
      ⟨other, hpresents, -⟩ | ⟨-, ⟨other, asked, hother, -⟩ | ⟨-, hmissing⟩⟩
    · exact absurd hpresents (hnone other)
    · exact absurd hother (hempty other)
    · exact hmissing

end Authenticator

end FleetDashboard
