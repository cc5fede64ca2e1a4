import FleetDashboard.Caller.Identity

/-!
# What headers say of a caller

A caller presents a credential in the first authorization header and names the user that it acts for
in the first header for that. Only the first header of either name counts, and only if it can be
read; what follows behind it is never looked at.

* `Headers.Presents`, `Headers.ActsFor`: the credential and the acting user that headers carry.
* `Identity.bearer?_eq_some_iff`, `Identity.impersonation?_eq_none_iff`: they are what is read.
* `Identity.ofHeaders?_of_presents`, `Identity.ofHeaders?_eq_none_iff`: the identity that headers
  carry, and when there is none.
-/

namespace FleetDashboard

namespace Headers

variable {headers : Headers} {name value : String}

/-- The first authorization header can be read and holds a credential behind its lead. -/
structure Presents (headers : Headers) (token : String) : Prop where
  /-- It stands in the first header. -/
  first : (headers.values Identity.authorizationHeader).head? = some (Identity.bearerLead ++ token)
  /-- That header can be read. -/
  readable : isReadable (Identity.bearerLead ++ token) = true
  /-- There is something behind the lead. -/
  nonempty : token ≠ ""

/-- The first header that names an acting user can be read and names one. -/
structure ActsFor (headers : Headers) (user : String) : Prop where
  /-- The user stands in the first header. -/
  first : (headers.values Identity.userHeader).head? = some user
  /-- That header can be read. -/
  readable : isReadable user = true
  /-- There is a name. -/
  nonempty : user ≠ ""

theorem first?_eq_some_iff :
    headers.first? name = some value ↔
      (headers.values name).head? = some value ∧ isReadable value = true := by
  rw [first?, Option.filter_eq_some_iff]

end Headers

namespace Identity

variable {headers : Headers} {token user : String}

/-- The credential that is read is the one that is presented. -/
theorem bearer?_eq_some_iff : bearer? headers = some token ↔ headers.Presents token := by
  simp only [bearer?, Option.bind_eq_some_iff, Option.filter_eq_some_iff,
    Headers.first?_eq_some_iff, Text.stripLead?_eq_some_iff, decide_eq_true_eq]
  constructor
  · rintro ⟨value, ⟨hfirst, hreadable⟩, rfl, hne⟩
    exact ⟨hfirst, hreadable, hne⟩
  · rintro ⟨hfirst, hreadable, hne⟩
    exact ⟨_, ⟨hfirst, hreadable⟩, rfl, hne⟩

/-- The user that is read is the one that the caller acts for. -/
theorem filter_first?_eq_some_iff :
    (headers.first? userHeader).filter (· ≠ "") = some user ↔ headers.ActsFor user := by
  rw [Option.filter_eq_some_iff, Headers.first?_eq_some_iff, decide_eq_true_eq]
  constructor
  · rintro ⟨⟨hfirst, hreadable⟩, hne⟩
    exact ⟨hfirst, hreadable, hne⟩
  · rintro ⟨hfirst, hreadable, hne⟩
    exact ⟨⟨hfirst, hreadable⟩, hne⟩

/-- With an acting user, all groups and attributes that can be read come with it. -/
theorem impersonation?_of_actsFor (h : headers.ActsFor user) :
    impersonation? headers =
      some { user, groups := headers.readable groupHeader, extra := extraOf headers } := by
  rw [impersonation?, filter_first?_eq_some_iff.2 h, Option.map_some]

/-- There is no impersonation exactly when there is no acting user. -/
theorem impersonation?_eq_none_iff :
    impersonation? headers = none ↔ ∀ user, ¬ headers.ActsFor user := by
  rw [impersonation?, Option.map_eq_none_iff, Option.eq_none_iff_forall_ne_some]
  simp only [ne_eq, filter_first?_eq_some_iff]

/-- Who presents a credential is known by it, acts for the user that the headers name, and goes by
that user's name. -/
theorem ofHeaders?_of_presents (h : headers.Presents token) :
    ofHeaders? headers =
      some {
        token
        impersonation := impersonation? headers
        username := (impersonation? headers).map (·.user) } := by
  rw [ofHeaders?, bearer?_eq_some_iff.2 h, Option.map_some]
  cases impersonation? headers <;> rfl

/-- Headers carry no identity exactly when no credential is presented. -/
theorem ofHeaders?_eq_none_iff : ofHeaders? headers = none ↔ ∀ token, ¬ headers.Presents token := by
  rw [ofHeaders?, Option.map_eq_none_iff, Option.eq_none_iff_forall_ne_some]
  simp only [ne_eq, bearer?_eq_some_iff]

end Identity

end FleetDashboard
