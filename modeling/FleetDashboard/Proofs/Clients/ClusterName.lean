import FleetDashboard.Clients.ClusterName
import FleetDashboard.Connection.Basic
import FleetDashboard.Proofs.Text.Pieces

/-!
# Names of members and their addresses

The names that are let in are the subdomains of DNS. A member's name is put into the path of its
proxy as it is, and there it stays one segment: nothing in it ends the segment or makes it one that
leads elsewhere. So members with different names are reached at different addresses.

* `ClusterName.IsLabel`, `ClusterName.IsSubdomain`: the shape of names, as labels with dots between
  them.
* `ClusterName.validate_eq_ok_iff_isSubdomain`: the names that are let in are of that shape.
* `Connection.memberPath`, `Connection.splitString_memberPath`: the path of a member, and its
  segments.
* `ClusterName.NamesOneMember`, `ClusterName.namesOneMember`: a name that is let in, in the
  addresses of members.
-/

namespace FleetDashboard

/-! ## Names of members -/

namespace ClusterName

variable {name : String} {label : List Char}

theorem validate_eq_ok_iff : validate name = .ok () ↔ isName name = true := by
  unfold validate
  split <;> simp_all

/-- A name holds nothing but dots and the characters of labels. -/
theorem of_mem_of_isName (h : isName name = true) {c : Char} (hc : c ∈ name.toList) :
    c = '.' ∨ isLabelChar c = true := by
  unfold isName at h
  simp only [Bool.and_eq_true, List.all_eq_true] at h
  -- a character of the name is a dot between two labels, or stands in one of them
  rw [← Text.join_split '.' name.toList] at hc
  rcases Text.mem_join hc with hdot | ⟨label, hlabel, hmem⟩
  · exact Or.inl hdot
  · have hshape := h.2 label hlabel
    unfold isLabel at hshape
    simp only [Bool.and_eq_true, List.all_eq_true] at hshape
    exact Or.inr (hshape.1.1.2 c hmem)

/-- A small letter or a digit. -/
def IsLetterOrDigit (c : Char) : Prop :=
  ('a' ≤ c ∧ c ≤ 'z') ∨ ('0' ≤ c ∧ c ≤ '9')

/-- A label of DNS: 1 to 63 small letters, digits and hyphens, with no hyphen at either end. -/
structure IsLabel (label : String) : Prop where
  /-- It is neither empty nor too long. -/
  length : 1 ≤ label.length ∧ label.length ≤ 63
  /-- It holds small letters, digits and hyphens. -/
  chars : ∀ c ∈ label.toList, IsLetterOrDigit c ∨ c = '-'
  /-- It begins with a letter or a digit. -/
  first : ∀ c, label.toList.head? = some c → IsLetterOrDigit c
  /-- It ends with a letter or a digit. -/
  last : ∀ c, label.toList.getLast? = some c → IsLetterOrDigit c

/-- A subdomain of DNS: labels with dots between them, 1 to 253 bytes in all. -/
structure IsSubdomain (name : String) : Prop where
  /-- It is neither empty nor too long. -/
  size : 1 ≤ name.utf8ByteSize ∧ name.utf8ByteSize ≤ 253
  /-- It is put together from labels. -/
  labels : ∃ labels : List String, (∀ label ∈ labels, IsLabel label) ∧ name = ".".intercalate labels

theorem isLabelChar_iff {c : Char} : isLabelChar c = true ↔ IsLetterOrDigit c ∨ c = '-' := by
  simp [isLabelChar, IsLetterOrDigit]

/-- Among the characters of labels those that may stand at an end are all but the hyphen. -/
theorem ne_hyphen_iff {c : Char} (h : isLabelChar c = true) : c ≠ '-' ↔ IsLetterOrDigit c := by
  constructor
  · exact (isLabelChar_iff.1 h).resolve_right
  · rintro hletter rfl
    exact absurd hletter (by unfold IsLetterOrDigit; decide)

/-- The texts that count as labels are the labels. -/
theorem isLabel_iff : isLabel label = true ↔ IsLabel (String.ofList label) := by
  have hlength : (String.ofList label).length = label.length := by simp
  constructor
  · intro h
    simp only [isLabel, Bool.and_eq_true, List.all_eq_true, decide_eq_true_eq] at h
    obtain ⟨⟨⟨⟨hne, hlong⟩, hchars⟩, hfirst⟩, hlast⟩ := h
    refine ⟨⟨?_, ?_⟩, ?_, ?_, ?_⟩
    · rw [hlength]
      exact List.length_pos_iff.2 hne
    · rw [hlength]
      exact hlong
    · simpa only [String.toList_ofList, ← isLabelChar_iff] using hchars
    · intro c hc
      rw [String.toList_ofList] at hc
      refine (ne_hyphen_iff (hchars c (List.mem_of_head? hc))).1 ?_
      rintro rfl
      exact hfirst hc
    · intro c hc
      rw [String.toList_ofList] at hc
      refine (ne_hyphen_iff (hchars c (List.mem_of_getLast? hc))).1 ?_
      rintro rfl
      exact hlast hc
  · rintro ⟨⟨hne, hlong⟩, hchars, hfirst, hlast⟩
    rw [hlength] at hne hlong
    simp only [String.toList_ofList, ← isLabelChar_iff] at hchars hfirst hlast
    have hends : ∀ c, label.head? = some c ∨ label.getLast? = some c → c ≠ '-' := by
      intro c hc
      rcases hc with hc | hc
      · exact (ne_hyphen_iff (hchars c (List.mem_of_head? hc))).2 (hfirst c hc)
      · exact (ne_hyphen_iff (hchars c (List.mem_of_getLast? hc))).2 (hlast c hc)
    simp only [isLabel, Bool.and_eq_true, List.all_eq_true, decide_eq_true_eq]
    exact ⟨⟨⟨⟨List.length_pos_iff.1 hne, hlong⟩, hchars⟩, fun h => hends _ (Or.inl h) rfl⟩,
      fun h => hends _ (Or.inr h) rfl⟩

/-- No label holds a dot. -/
theorem IsLabel.dot_not_mem {label : String} (h : IsLabel label) : '.' ∉ label.toList := by
  intro hdot
  rcases h.chars _ hdot with hletter | hhyphen
  · exact absurd hletter (by unfold IsLetterOrDigit; decide)
  · exact absurd hhyphen (by decide)

/-- The pieces of a name between its dots are labels exactly if it is put together from labels. -/
theorem forall_isLabel_iff (hne : name ≠ "") :
    (∀ label ∈ Text.splitString '.' name, IsLabel label) ↔
      ∃ labels : List String,
        (∀ label ∈ labels, IsLabel label) ∧ name = ".".intercalate labels := by
  constructor
  · intro h
    exact ⟨_, h, (Text.intercalate_splitString '.' name).symm⟩
  · rintro ⟨labels, hlabels, rfl⟩
    have hsome : labels ≠ [] := by
      rintro rfl
      exact hne String.intercalate_nil
    have hsplit : Text.splitString '.' (".".intercalate labels) = labels :=
      Text.splitString_intercalate hsome fun label hlabel => (hlabels label hlabel).dot_not_mem
    rw [hsplit]
    exact hlabels

/-- The names that are let in are the subdomains. -/
theorem validate_eq_ok_iff_isSubdomain : validate name = .ok () ↔ IsSubdomain name := by
  have hlabels : (Text.split '.' name.toList).all isLabel = true ↔
      ∀ label ∈ Text.splitString '.' name, IsLabel label := by
    simp only [List.all_eq_true, isLabel_iff, Text.splitString, List.forall_mem_map]
  have hsize : name ≠ "" ↔ 1 ≤ name.utf8ByteSize := by
    rw [ne_eq, ← String.utf8ByteSize_eq_zero_iff]
    omega
  rw [validate_eq_ok_iff]
  simp only [isName, Bool.and_eq_true, decide_eq_true_eq, hlabels]
  constructor
  · rintro ⟨⟨hne, hlong⟩, hpieces⟩
    exact ⟨⟨hsize.1 hne, hlong⟩, (forall_isLabel_iff hne).1 hpieces⟩
  · rintro ⟨⟨hpos, hlong⟩, hpieces⟩
    exact ⟨⟨hsize.2 hpos, hlong⟩, (forall_isLabel_iff (hsize.2 hpos)).2 hpieces⟩

end ClusterName

/-! ## Addresses of members -/

namespace Connection

variable {cluster : String}

/-- The path of a member below the address of the template. -/
def memberPath (cluster : String) : String :=
  clusterProxyLead ++ "/" ++ cluster ++ "/proxy/"

/-- The segments in front of the name in the path of a member; the first one is empty because the
path begins with a slash. -/
def leadSegments : List String :=
  ["", "apis", "cluster.karmada.io", "v1alpha1", "clusters"]

theorem memberProxyUrl_eq (host cluster : String) :
    memberProxyUrl host cluster = Text.trimEnd '/' host ++ memberPath cluster := by
  simp only [memberProxyUrl, memberPath, String.append_assoc]

/-- The path of a member is its segments with slashes between them. -/
theorem memberPath_eq_intercalate (cluster : String) :
    memberPath cluster = "/".intercalate (leadSegments ++ [cluster, "proxy", ""]) := by
  refine String.toList_injective ?_
  simp [memberPath, clusterProxyLead, leadSegments]

/-- A text without a slash is one segment of the path. -/
theorem splitString_memberPath (h : '/' ∉ cluster.toList) :
    Text.splitString '/' (memberPath cluster) = leadSegments ++ [cluster, "proxy", ""] := by
  have hslash : String.singleton '/' = "/" := rfl
  rw [memberPath_eq_intercalate, ← hslash]
  refine Text.splitString_intercalate (by simp) fun segment hsegment => ?_
  simp only [leadSegments, List.cons_append, List.nil_append, List.mem_cons, List.not_mem_nil,
    or_false] at hsegment
  rcases hsegment with rfl | rfl | rfl | rfl | rfl | rfl | rfl | rfl
  case inr.inr.inr.inr.inr.inl => exact h
  all_goals decide

end Connection

namespace ClusterName

open Connection (memberProxyUrl memberPath leadSegments)

variable {name : String}

/-- No name that is let in holds a slash. -/
theorem slash_not_mem (h : validate name = .ok ()) : '/' ∉ name.toList := by
  intro hmem
  rcases of_mem_of_isName (validate_eq_ok_iff.1 h) hmem with hdot | hlabel
  · exact absurd hdot (by decide)
  · exact absurd hlabel (by decide)

/-- Which texts are names of members, and what becomes of them in the addresses of members. -/
structure NamesOneMember (name : String) : Prop where
  /-- A name is let in exactly if it is a subdomain. -/
  accepted : validate name = .ok () ↔ IsSubdomain name
  /-- Behind a host without the slashes at its end, the segments of a member's address are the fixed
  ones, the name itself, that of the proxy, and an empty one. -/
  segments : validate name = .ok () → ∀ host, ∃ base path count,
    host = base ++ Text.repeated '/' count ∧ base.toList.getLast? ≠ some '/' ∧
      memberProxyUrl host name = base ++ path ∧
      Text.splitString '/' path = leadSegments ++ [name, "proxy", ""]
  /-- Another name that is let in has another address behind the same host. -/
  distinct : validate name = .ok () → ∀ other, validate other = .ok () → other ≠ name →
    ∀ host, memberProxyUrl host other ≠ memberProxyUrl host name
  /-- Slashes at the end of the host make no difference. -/
  slashes : ∀ host count,
    memberProxyUrl (host ++ Text.repeated '/' count) name = memberProxyUrl host name

/-- A text is let in as the name of a member exactly if it is a subdomain, and then it names one
member in every address. -/
theorem namesOneMember (name : String) : NamesOneMember name where
  accepted := validate_eq_ok_iff_isSubdomain
  segments := by
    intro h host
    obtain ⟨hlast, count, hhost⟩ :=
      Text.trimEnd_eq_iff.1 (rfl : Text.trimEnd '/' host = Text.trimEnd '/' host)
    exact ⟨_, memberPath name, count, hhost, hlast, Connection.memberProxyUrl_eq host name,
      Connection.splitString_memberPath (slash_not_mem h)⟩
  distinct := by
    intro h other hother hne host hsame
    -- behind the same host the paths are the same, and so are their segments
    rw [Connection.memberProxyUrl_eq, Connection.memberProxyUrl_eq,
      String.append_right_inj] at hsame
    have hsegments := congrArg (Text.splitString '/') hsame
    rw [Connection.splitString_memberPath (slash_not_mem hother),
      Connection.splitString_memberPath (slash_not_mem h), List.append_cancel_left_eq,
      List.cons.injEq] at hsegments
    exact hne hsegments.1
  slashes := by
    intro host count
    rw [Connection.memberProxyUrl_eq, Connection.memberProxyUrl_eq, Text.trimEnd_append_repeated]

end ClusterName

end FleetDashboard
