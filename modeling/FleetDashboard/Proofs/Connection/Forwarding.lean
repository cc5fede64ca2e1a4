import Mathlib.Data.List.Basic
import FleetDashboard.Connection.Basic
import FleetDashboard.Proofs.Caller.HeaderNames
import FleetDashboard.Proofs.Outcome

/-!
# What is forwarded of a caller

The connection that acts for a caller shows the credential that was presented, and if the caller
acts for a user, that user, the groups that can be read, and the attributes. An attribute travels
under its key with the words capitalised, sorted by these keys, and is written under the name that
it came with. Nothing is lost on the way, for a name in small letters is had back from its key, and
nothing is made up.

* `Connection.attributeHeaders`: the headers that an attribute is written as.
* `Connection.values_attributeHeaders`: under the name of an attribute stands what was read under it.
* `Connection.Forwards`: a connection forwards what headers say, with the given credentials.
* `Connection.ForwardsExactly`, `Connection.forwardsExactly`: without loss or invention, for all
  headers of a request.
-/

namespace FleetDashboard.Connection

variable {headers : Headers} {name : String} {entry : String × List String}

/-! ## Attributes -/

/-- What headers say of an attribute, if the name is one's: its key and its readable values. -/
def attribute? (headers : Headers) (name : String) : Option (String × List String) :=
  (Identity.extraKey? name).map fun key => (Identity.canonicalKey key, headers.readable name)

/-- The name that an attribute is written under. -/
def attributeName (entry : String × List String) : String :=
  Text.asciiLower (extraHeaderLead ++ entry.1)

/-- The headers that an attribute is written as. -/
def attributeHeaders (entry : String × List String) : Headers :=
  entry.2.map fun value => (attributeName entry, value)

/-- An attribute is written under the name that it came under, for the capitals of its key are taken
back. -/
theorem attributeName_of_attribute? (hname : Text.asciiLower name = name)
    (h : attribute? headers name = some entry) : attributeName entry = name := by
  obtain ⟨key, hkey, rfl⟩ := Option.map_eq_some_iff.1 h
  obtain ⟨rfl, -⟩ := Identity.extraKey?_eq_some_iff.1 hkey
  have hlead : Text.asciiLower extraHeaderLead = Identity.extraLead := by decide +kernel
  rw [attributeName, Text.asciiLower_append, hlead, Identity.asciiLower_canonicalKey,
    Identity.asciiLower_of_extraLead hname]

theorem isName_extraHeader (hname : Headers.isName name = true)
    (h : attribute? headers name = some entry) :
    Headers.isName (extraHeaderLead ++ entry.1) = true := by
  obtain ⟨key, hkey, rfl⟩ := Option.map_eq_some_iff.1 h
  obtain ⟨rfl, -⟩ := Identity.extraKey?_eq_some_iff.1 hkey
  have hlead : extraHeaderLead.toList.all Headers.isNameChar = true := by decide +kernel
  have hne : extraHeaderLead ++ Identity.canonicalKey key ≠ "" := by
    intro hempty
    exact absurd (String.append_eq_empty_iff.1 hempty).1 (by decide)
  -- capitals do not matter, so the key's characters are as good as they were
  simp only [Headers.isName, String.toList_append, List.all_append, Bool.and_eq_true] at hname ⊢
  refine ⟨decide_eq_true hne, hlead, ?_⟩
  rw [Identity.canonicalKey, String.toList_ofList, Identity.all_isNameChar_canonicalChars]
  exact hname.2.2

theorem mem_extraOf_iff :
    entry ∈ Identity.extraOf headers ↔
      ∃ name ∈ headers.names, attribute? headers name = some entry := by
  rw [Identity.extraOf, Identity.sortExtra, (stableSort_perm _ _).mem_iff, List.mem_filterMap]
  rfl

/-- What was read of an attribute can be written. -/
theorem extraHeaders_of_mem (hlegal : headers.Legal) (h : entry ∈ Identity.extraOf headers) :
    extraHeaders entry.1 entry.2 = .ok (attributeHeaders entry) := by
  obtain ⟨name, hname, hentry⟩ := mem_extraOf_iff.1 h
  have hheader := isName_extraHeader (Headers.isName_of_mem_names hlegal hname) hentry
  have hvalues : entry.2.all Headers.isValue = true := by
    obtain ⟨key, -, rfl⟩ := Option.map_eq_some_iff.1 hentry
    rw [List.all_eq_true]
    intro value hvalue
    -- only what can be read is among the values
    exact Headers.isValue_of_isReadable (List.mem_filter.1 hvalue).2
  simp only [extraHeaders, hheader, hvalues, Bool.not_true, Bool.false_eq_true, if_false]
  rfl

/-- So all attributes can, whoever acts with them. -/
theorem impersonationHeaders_of_legal (hlegal : headers.Legal) (user : String)
    (groups : List String) :
    impersonationHeaders { user, groups, extra := Identity.extraOf headers } =
      .ok ((Identity.extraOf headers).map attributeHeaders).flatten := by
  have hall : ∀ entry ∈ Identity.extraOf headers,
      extraHeaders entry.1 entry.2 = .ok (attributeHeaders entry) :=
    fun entry hentry => extraHeaders_of_mem hlegal hentry
  rw [impersonationHeaders, mapM_eq_ok_map hall]
  rfl

/-- Before they are sorted, of all attributes only the one that came under a name is written under
it. -/
theorem filter_attribute? (headers : Headers) (name : String) :
    (headers.names.filterMap (attribute? headers)).filter
        (fun entry => attributeName entry = name) =
      if name ∈ headers.names then (attribute? headers name).toList else [] := by
  have hback : ∀ other ∈ headers.names,
      (attribute? headers other).filter (fun entry => attributeName entry = name) =
        if decide (other = name) = true then attribute? headers other else none := by
    intro other hother
    rcases hentry : attribute? headers other with - | entry
    · simp
    · have hwritten := attributeName_of_attribute? (Headers.asciiLower_of_mem_names hother) hentry
      simp [Option.filter, hwritten]
  -- the name stands in one place of the list of names, if anywhere
  rw [List.filter_filterMap, List.filterMap_congr hback, ← List.filterMap_filter, List.filter_eq,
    (Headers.nodup_names headers).count]
  split
  · simp only [List.replicate_one, List.filterMap_cons, List.filterMap_nil]
    cases attribute? headers name <;> rfl
  · rfl

/-- So it is when they are sorted. -/
theorem filter_extraOf (headers : Headers) (name : String) :
    (Identity.extraOf headers).filter (fun entry => attributeName entry = name) =
      if name ∈ headers.names then (attribute? headers name).toList else [] := by
  have hsorted : ((Identity.extraOf headers).filter (fun entry => attributeName entry = name)).Perm
      (if name ∈ headers.names then (attribute? headers name).toList else []) := by
    rw [← filter_attribute?]
    exact (stableSort_perm _ _).filter _
  -- a single one cannot be put in another place
  split at hsorted
  next hname =>
    rw [if_pos hname]
    cases hentry : attribute? headers name with
    | none =>
      rw [hentry] at hsorted
      exact hsorted.eq_nil
    | some entry =>
      rw [hentry] at hsorted
      exact List.perm_singleton.1 hsorted
  next hname =>
    rw [if_neg hname]
    exact hsorted.eq_nil

/-- Under a name stand the values of the attributes that are written under it. -/
theorem values_flatten_attributeHeaders (entries : List (String × List String)) (name : String) :
    Headers.values (entries.map attributeHeaders).flatten name =
      (entries.filter fun entry => attributeName entry = name).flatMap (·.2) := by
  induction entries with
  | nil => rfl
  | cons entry rest ih =>
    rw [List.map_cons, List.flatten_cons, Headers.values_append, ih, attributeHeaders,
      attributeName, Headers.values_map_same, List.filter_cons, attributeName]
    by_cases hname : Text.asciiLower (extraHeaderLead ++ entry.1) = name
    · rw [if_pos hname, if_pos (decide_eq_true hname), List.flatMap_cons]
    · rw [if_neg hname, if_neg (by rwa [decide_eq_true_eq]), List.nil_append]

/-- Under the name of an attribute stands what was read under it, and under any other name
nothing. -/
theorem values_attributeHeaders (headers : Headers) (name : String) :
    Headers.values ((Identity.extraOf headers).map attributeHeaders).flatten name =
      if (Identity.extraKey? name).isSome then headers.readable name else [] := by
  rw [values_flatten_attributeHeaders, filter_extraOf, attribute?]
  by_cases hname : name ∈ headers.names
  · rw [if_pos hname]
    cases Identity.extraKey? name <;> simp
  · -- what did not come under any header has nothing to be read
    rw [if_neg hname, Headers.readable_of_not_mem_names hname]
    simp

theorem mem_attributeHeaders {header : String × String}
    (h : header ∈ ((Identity.extraOf headers).map attributeHeaders).flatten) :
    (Identity.extraKey? header.1).isSome = true := by
  obtain ⟨_, hpart, hheader⟩ := List.mem_flatten.1 h
  obtain ⟨entry, hentry, rfl⟩ := List.mem_map.1 hpart
  obtain ⟨name, hname, hattribute⟩ := mem_extraOf_iff.1 hentry
  obtain ⟨value, -, rfl⟩ := List.mem_map.1 hheader
  rw [attributeName_of_attribute? (Headers.asciiLower_of_mem_names hname) hattribute]
  obtain ⟨key, hkey, -⟩ := Option.map_eq_some_iff.1 hattribute
  rw [hkey, Option.isSome_some]

/-! ## Callers -/

/-- The credentials of who acts for a user with a credential, in the groups that there are. -/
def actingCredentials (token user : String) (groups : List String) : Credentials :=
  { Credentials.none with
    token := some token
    actAs := some user
    actAsGroups := if groups = [] then none else some groups }

/-- A connection that is derived for a caller forwards what the headers say. -/
structure Forwards (connection derived : Connection) (headers : Headers)
    (credentials : Credentials) : Prop where
  /-- It shows these credentials. -/
  credentials : derived.endpoint.credentials = credentials
  /-- Under the name of an attribute, what was read follows what the connection has there. -/
  attributes : ∀ key, key ≠ "" →
    Headers.values derived.endpoint.headers (Identity.extraLead ++ key) =
      Headers.values connection.endpoint.headers (Identity.extraLead ++ key) ++
        headers.readable (Identity.extraLead ++ key)
  /-- No other header is added. -/
  added : ∃ added, derived.endpoint.headers = connection.endpoint.headers ++ added ∧
    ∀ header ∈ added, ∃ key, key ≠ "" ∧ header.1 = Identity.extraLead ++ key
  /-- All else is as it was. -/
  rest : derived = { connection with
    endpoint := { connection.endpoint with
      credentials := derived.endpoint.credentials
      headers := derived.endpoint.headers } }

/-- What headers say of a caller is forwarded without loss and without invention. -/
structure ForwardsExactly (connection : Connection) (headers : Headers) : Prop where
  /-- Who acts for a user is always given a connection, and it forwards all that can be read. -/
  acting : ∀ token user, headers.Presents token → headers.ActsFor user →
    ∃ identity derived, Identity.ofHeaders? headers = some identity ∧
      connection.withIdentity identity = .ok derived ∧
      Forwards connection derived headers
        (actingCredentials token user (headers.readable Identity.groupHeader))
  /-- No two attributes are taken for one. -/
  apart : ∀ key other,
    Identity.extraLead ++ key ∈ headers.names → Identity.extraLead ++ other ∈ headers.names →
      Identity.canonicalKey key = Identity.canonicalKey other → key = other
  /-- Who acts for nobody is given a connection too, and neither a group nor an attribute is
  forwarded. -/
  plain : ∀ token, headers.Presents token → (∀ user, ¬ headers.ActsFor user) →
    ∃ identity, Identity.ofHeaders? headers = some identity ∧
      connection.withIdentity identity = .ok { connection with
        endpoint := { connection.endpoint with
          credentials := { Credentials.none with token := some token } } }

/-- The connection with other credentials and with more headers. -/
def showing (connection : Connection) (credentials : Credentials) (added : Headers) : Connection :=
  { connection with
    endpoint := { connection.endpoint with
      credentials
      headers := connection.endpoint.headers ++ added } }

/-- Whatever acting headers ask for can be written. -/
theorem withIdentity_of_impersonation (connection : Connection) (identity : Identity)
    {user : String} (hlegal : headers.Legal)
    (hacting : identity.impersonation = some {
      user
      groups := headers.readable Identity.groupHeader
      extra := Identity.extraOf headers }) :
    connection.withIdentity identity =
      .ok (connection.showing
        (actingCredentials identity.token user (headers.readable Identity.groupHeader))
        ((Identity.extraOf headers).map attributeHeaders).flatten) := by
  have hcredentials : credentialsOf identity =
      actingCredentials identity.token user (headers.readable Identity.groupHeader) := by
    rw [credentialsOf, hacting]
    cases headers.readable Identity.groupHeader <;> rfl
  simp only [withIdentity, hacting]
  rw [impersonationHeaders_of_legal hlegal, hcredentials]
  rfl

theorem withIdentity_of_no_impersonation (connection : Connection) (identity : Identity)
    (hnobody : identity.impersonation = none) :
    connection.withIdentity identity =
      .ok (connection.showing { Credentials.none with token := some identity.token } []) := by
  have hcredentials :
      credentialsOf identity = { Credentials.none with token := some identity.token } := by
    rw [credentialsOf, hnobody]
    rfl
  simp only [withIdentity, hnobody]
  rw [hcredentials]
  rfl

theorem forwards_showing (connection : Connection) (headers : Headers)
    (credentials : Credentials) :
    Forwards connection
      (connection.showing credentials ((Identity.extraOf headers).map attributeHeaders).flatten)
      headers credentials where
  credentials := rfl
  attributes key hkey := by
    have hextra : Identity.extraKey? (Identity.extraLead ++ key) = some key :=
      Identity.extraKey?_eq_some_iff.2 ⟨rfl, hkey⟩
    rw [showing, Headers.values_append, values_attributeHeaders, hextra, Option.isSome_some,
      if_pos rfl]
  added := by
    refine ⟨_, rfl, fun header hheader => ?_⟩
    obtain ⟨key, hkey⟩ := Option.isSome_iff_exists.1 (mem_attributeHeaders hheader)
    obtain ⟨hname, hne⟩ := Identity.extraKey?_eq_some_iff.1 hkey
    exact ⟨key, hne, hname⟩
  rest := rfl

/-- Every caller is given a connection that forwards exactly what the caller's headers say. -/
theorem forwardsExactly (connection : Connection) (headers : Headers) (hlegal : headers.Legal) :
    ForwardsExactly connection headers where
  acting token user htoken huser := by
    have hidentity := Identity.ofHeaders?_of_presents htoken
    rw [Identity.impersonation?_of_actsFor huser] at hidentity
    exact ⟨_, _, hidentity, withIdentity_of_impersonation connection _ hlegal rfl,
      forwards_showing connection headers _⟩
  apart key other hkey hother h :=
    Identity.canonicalKey_injOn
      (Identity.asciiLower_of_extraLead (Headers.asciiLower_of_mem_names hkey))
      (Identity.asciiLower_of_extraLead (Headers.asciiLower_of_mem_names hother)) h
  plain token htoken hnobody := by
    have hidentity := Identity.ofHeaders?_of_presents htoken
    rw [Identity.impersonation?_eq_none_iff.2 hnobody] at hidentity
    have hderived := withIdentity_of_no_impersonation connection (.ofToken token) rfl
    rw [showing, List.append_nil] at hderived
    exact ⟨_, hidentity, hderived⟩

/-- A caller with two scopes, an attribute in capitals, and a group that cannot be read. -/
def scopedCaller : Headers :=
  [("Authorization", "Bearer tok"), ("Impersonate-User", "alice"), ("Impersonate-Group", "devs"),
    ("Impersonate-Group", "café"), ("Impersonate-Extra-Scopes", "view"),
    ("impersonate-extra-ACME.IO-team", "blue"), ("impersonate-extra-scopes", "edit")]

/-- A connection that sends a scope of its own. -/
def auditing : Connection :=
  let address : Uri :=
    { scheme := some "http", authority := "kube", writtenPath := "/", query := none }
  .ofEndpoint { Endpoint.ofAddress address with
    headers := [("impersonate-extra-scopes", "audit")] }

/-- All but the group that cannot be read is forwarded, behind the connection's own scope. -/
theorem forwardsExactly_scopedCaller :
    scopedCaller.Legal ∧ scopedCaller.Presents "tok" ∧ scopedCaller.ActsFor "alice" ∧
      ForwardsExactly auditing scopedCaller ∧
      scopedCaller.readable Identity.groupHeader = ["devs"] ∧
      Headers.values auditing.endpoint.headers "impersonate-extra-scopes" ++
        scopedCaller.readable "impersonate-extra-scopes" = ["audit", "view", "edit"] := by
  have hlegal : scopedCaller.Legal := by
    unfold Headers.Legal
    decide +kernel
  exact ⟨hlegal, ⟨by decide +kernel, by decide +kernel, by decide⟩,
    ⟨by decide +kernel, by decide +kernel, by decide⟩,
    forwardsExactly auditing scopedCaller hlegal, by decide +kernel, by decide +kernel⟩

end FleetDashboard.Connection
