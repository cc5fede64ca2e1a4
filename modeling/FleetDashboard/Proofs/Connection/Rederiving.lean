import FleetDashboard.ApiServer.Request
import FleetDashboard.Proofs.Connection.Forwarding

/-!
# Acting for one caller after another

A connection that acts for a caller may itself be derived for another one. Credentials are replaced,
the user and the groups to act as among them, and the settings of the connection are kept. But the
attributes of a caller are headers, and headers are only ever added: those of the earlier caller
stay in front of those of the later one, and go with every request that is made for the later one.

* `Identity.attributes`, `Connection.attributeHeadersOf`: the attributes of a caller, and the
  headers they are written as.
* `Connection.eq_showing_of_withIdentity`: all that deriving changes.
* `Connection.ReplacesIdentity`: nothing is left of an earlier caller.
* `Connection.replacesIdentity_iff`: that is so exactly if the earlier caller brings no attribute.
-/

namespace FleetDashboard

/-- The attributes of a caller. -/
def Identity.attributes (identity : Identity) : List (String × List String) :=
  (identity.impersonation.map (·.extra)).getD []

namespace Connection

variable {connection derived first fresh : Connection} {identity earlier later : Identity}
  {added : Headers}

/-! ## What deriving changes -/

/-- The headers that the attributes of a caller are written as. -/
def attributeHeadersOf (identity : Identity) : Headers :=
  (identity.attributes.map attributeHeaders).flatten

theorem attributeHeadersOf_eq_nil_iff :
    attributeHeadersOf identity = [] ↔ ∀ entry ∈ identity.attributes, entry.2 = [] := by
  rw [attributeHeadersOf, List.flatten_eq_nil_iff, List.forall_mem_map]
  simp only [attributeHeaders, List.map_eq_nil_iff]

theorem eq_attributeHeaders_of_extraHeaders {entry : String × List String}
    (h : extraHeaders entry.1 entry.2 = .ok added) : added = attributeHeaders entry := by
  unfold extraHeaders at h
  extract_lets name at h
  split at h
  · cases h
  · split at h
    · cases h
    · cases h
      rfl

/-- Deriving for a caller writes the attributes one after the other, and nothing else can fail. -/
theorem withIdentity_eq_map (connection : Connection) (identity : Identity) :
    connection.withIdentity identity =
      (identity.attributes.mapM fun entry => extraHeaders entry.1 entry.2).map fun parts =>
        connection.showing (credentialsOf identity) parts.flatten := by
  rcases hacting : identity.impersonation with - | impersonation
  · simp only [withIdentity, Identity.attributes, hacting]
    rfl
  · simp only [withIdentity, Identity.attributes, impersonationHeaders, hacting, Option.map_some,
      Option.getD_some]
    cases impersonation.extra.mapM fun entry => extraHeaders entry.1 entry.2 <;> rfl

/-- A connection that can be derived for a caller can be derived from any other one too. It shows
the caller's credentials and sends the headers of the attributes, and is as it was in all else. -/
theorem withIdentity_of_withIdentity (h : connection.withIdentity identity = .ok derived)
    (other : Connection) :
    other.withIdentity identity =
      .ok (other.showing (credentialsOf identity) (attributeHeadersOf identity)) := by
  rw [withIdentity_eq_map, map_eq_ok_iff] at h ⊢
  obtain ⟨parts, hparts, -⟩ := h
  refine ⟨parts, hparts, ?_⟩
  rw [eq_map_of_mapM_eq_ok (fun _ _ => eq_attributeHeaders_of_extraHeaders) hparts,
    attributeHeadersOf]

theorem eq_showing_of_withIdentity (h : connection.withIdentity identity = .ok derived) :
    derived = connection.showing (credentialsOf identity) (attributeHeadersOf identity) := by
  rw [withIdentity_of_withIdentity h connection] at h
  exact (Except.ok.inj h).symm

/-! ## What is sent -/

/-- No attribute goes by the name of the header that names the client. -/
theorem attributeName_ne_userAgentHeader (entry : String × List String) :
    attributeName entry ≠ userAgentHeader := by
  intro h
  have hlead : Text.asciiLower extraHeaderLead = Identity.extraLead := by decide +kernel
  rw [attributeName, Text.asciiLower_append, hlead] at h
  -- the first letters differ
  have hhead := congrArg (fun name => name.toList.head?) h
  simp [Identity.extraLead, userAgentHeader] at hhead

/-- The headers of a connection go with every request of its client, but for one that names the
client. -/
theorem mem_headers_of_client {client : ApiClient} {header : String × String}
    (h : connection.client = .ok client) (hmem : header ∈ connection.endpoint.headers)
    (hname : header.1 ≠ userAgentHeader) : header ∈ client.headers := by
  obtain ⟨endpoint, heffective, hbuilt⟩ := bind_eq_ok_iff.1 h
  obtain ⟨acting, -, hclient⟩ := bind_eq_ok_iff.1 hbuilt
  rw [← pure_eq_ok_iff.1 hclient]
  unfold effective at heffective
  extract_lets own at heffective
  split at heffective
  · cases heffective
    simp [own, hmem, hname]
  · cases heffective

/-- A request carries the headers of its client. -/
theorem headers_of_request {client : ApiClient} {request : ApiRequest} {method path : String}
    {body : Option Json} (h : client.request method path body = .ok request) :
    request.headers = client.headers := by
  unfold ApiClient.request at h
  split at h
  · cases h
    rfl
  · cases h

/-! ## One caller after another -/

/-- A connection that is derived for one caller after another has, but for the settings that every
derived connection keeps, all from the later caller: it is as good as one derived for that caller
alone. -/
structure ReplacesIdentity (connection fresh both : Connection) : Prop where
  /-- It shows the same credentials, and acts as the same user in the same groups. -/
  credentials : both.endpoint.credentials = fresh.endpoint.credentials
  /-- It sends the same headers. -/
  headers : both.endpoint.headers = fresh.endpoint.headers
  /-- It has the settings of the first connection. -/
  settings : both.endpoint.acceptInvalidCerts = connection.endpoint.acceptInvalidCerts ∧
    both.insecure = connection.insecure ∧ both.rateLimit = connection.rateLimit ∧
    both.userAgent = connection.userAgent

/-- Deriving for a later caller leaves nothing of an earlier one exactly if the earlier one brings
no value of an attribute. All that can be left are the headers of these values. They stand between
those of the connection and those of the later caller, and go with every request for the latter. -/
theorem replacesIdentity_iff (hfirst : connection.withIdentity earlier = .ok first)
    (hfresh : connection.withIdentity later = .ok fresh) :
    ∃ both, first.withIdentity later = .ok both ∧
      (ReplacesIdentity connection fresh both ↔ ∀ entry ∈ earlier.attributes, entry.2 = []) ∧
      both = { fresh with
        endpoint := { fresh.endpoint with
          headers := connection.endpoint.headers ++ attributeHeadersOf earlier ++
            attributeHeadersOf later } } ∧
      ∀ client, both.client = .ok client → ∀ method path body request,
        client.request method path body = .ok request →
        ∀ header ∈ attributeHeadersOf earlier, header ∈ request.headers := by
  obtain rfl := eq_showing_of_withIdentity hfirst
  obtain rfl := eq_showing_of_withIdentity hfresh
  refine ⟨_, withIdentity_of_withIdentity hfresh _, ?_, rfl, ?_⟩
  · rw [← attributeHeadersOf_eq_nil_iff]
    constructor
    · intro h
      -- both end in the later caller's headers, and what is left in front is the connection's own
      have hheaders := h.headers
      simpa [showing] using hheaders
    · intro hnone
      constructor <;> simp [showing, hnone]
  · intro client hclient method path body request hrequest header hheader
    rw [headers_of_request hrequest]
    refine mem_headers_of_client hclient (by simp [showing, hheader]) ?_
    obtain ⟨part, hpart, hmem⟩ := List.mem_flatten.1 hheader
    obtain ⟨entry, -, rfl⟩ := List.mem_map.1 hpart
    obtain ⟨value, -, rfl⟩ := List.mem_map.1 hmem
    exact attributeName_ne_userAgentHeader entry

/-- A connection without headers of its own. -/
def bare : Connection :=
  .ofEndpoint (.ofAddress
    { scheme := some "http", authority := "kube", writtenPath := "/", query := none })

/-- A caller that acts for a user, with an attribute. -/
def scopedUser : Identity :=
  (Identity.ofToken "first").impersonating
    { user := "alice", groups := ["devs"], extra := [("Scopes", ["edit"])] }

/-- A caller that acts for another user, with another attribute. -/
def reasonedUser : Identity :=
  (Identity.ofToken "second").impersonating
    { user := "bob", groups := [], extra := [("Reason", ["oncall"])] }

theorem replacesIdentity_iff_scopedUser :
    ∃ first fresh both,
      bare.withIdentity scopedUser = .ok first ∧ bare.withIdentity reasonedUser = .ok fresh ∧
      first.withIdentity reasonedUser = .ok both ∧
      (ReplacesIdentity bare fresh both ↔ ∀ entry ∈ scopedUser.attributes, entry.2 = []) := by
  have hfirst : bare.withIdentity scopedUser = .ok (bare.showing (credentialsOf scopedUser)
      [("impersonate-extra-scopes", "edit")]) := by decide +kernel
  have hfresh : bare.withIdentity reasonedUser = .ok (bare.showing (credentialsOf reasonedUser)
      [("impersonate-extra-reason", "oncall")]) := by decide +kernel
  obtain ⟨both, hboth, hiff, -⟩ := replacesIdentity_iff hfirst hfresh
  exact ⟨_, _, both, hfirst, hfresh, hboth, hiff⟩

/-- A caller without attributes acts with those of the caller before. -/
theorem not_replacesIdentity_of_scope :
    let first := bare.showing (credentialsOf scopedUser) [("impersonate-extra-scopes", "edit")]
    let fresh := bare.showing (credentialsOf (.ofToken "second")) []
    let both := first.showing (credentialsOf (.ofToken "second")) []
    bare.withIdentity scopedUser = .ok first ∧ bare.withIdentity (.ofToken "second") = .ok fresh ∧
      first.withIdentity (.ofToken "second") = .ok both ∧ ¬ ReplacesIdentity bare fresh both := by
  intro first fresh both
  refine ⟨by decide +kernel, by decide +kernel, by decide +kernel, fun h => ?_⟩
  exact absurd h.headers (by decide +kernel)

end Connection

end FleetDashboard
