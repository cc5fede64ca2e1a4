import FleetDashboard.Proofs.Caller.Credential

/-!
# Names of headers

Capitals make no difference to the name of a header. So a name may be written in small letters, as
in `Headers.names`, or with its words capitalised, as in `Identity.canonicalKey`, and still stands
for the same header: from either form the other one can be had back.

* `Headers.Legal`: every name is one; this is what a request comes with.
* `Headers.values_append`: the values under a name, part by part.
* `Identity.asciiLower_canonicalKey`, `Identity.canonicalKey_injOn`: different keys in small letters
  stay different when their words are capitalised.
-/

namespace FleetDashboard

/-! ## Capitals -/

namespace Text

/-- What holds of every ASCII character and of all others holds of every character. -/
theorem forall_char_of_ascii {p : Char → Prop} (hascii : ∀ n < 128, p (Char.ofNat n))
    (hother : ∀ c : Char, 128 ≤ c.toNat → p c) (c : Char) : p c := by
  rcases Nat.lt_or_ge c.toNat 128 with h | h
  · rw [← Char.ofNat_toNat c]
    exact hascii c.toNat h
  · exact hother c h

/-- Only ASCII characters are capitals. -/
theorem toLower_eq_self {c : Char} (h : 128 ≤ c.toNat) : c.toLower = c := by
  refine dif_neg fun hupper => ?_
  have hle : c.toNat ≤ 90 := UInt32.le_iff_toNat_le.1 hupper.2
  omega

/-- Only ASCII characters have capitals. -/
theorem toUpper_eq_self {c : Char} (h : 128 ≤ c.toNat) : c.toUpper = c := by
  refine dif_neg fun hlower => ?_
  have hle : c.toNat ≤ 122 := UInt32.le_iff_toNat_le.1 hlower.2
  omega

theorem toLower_toLower (c : Char) : c.toLower.toLower = c.toLower := by
  revert c
  refine forall_char_of_ascii (by decide +kernel) fun c hc => ?_
  rw [toLower_eq_self hc, toLower_eq_self hc]

theorem toLower_toUpper (c : Char) : c.toUpper.toLower = c.toLower := by
  revert c
  refine forall_char_of_ascii (by decide +kernel) fun c hc => ?_
  rw [toUpper_eq_self hc]

theorem toList_asciiLower (s : String) : (asciiLower s).toList = s.toList.map Char.toLower := by
  rw [asciiLower, String.toList_ofList]

@[simp]
theorem asciiLower_asciiLower (s : String) : asciiLower (asciiLower s) = asciiLower s := by
  apply String.toList_inj.1
  rw [toList_asciiLower, toList_asciiLower, List.map_map]
  exact List.map_congr_left fun c _ => toLower_toLower c

@[simp]
theorem asciiLower_append (s t : String) : asciiLower (s ++ t) = asciiLower s ++ asciiLower t := by
  apply String.toList_inj.1
  simp [toList_asciiLower]

end Text

namespace Headers

variable {headers more : Headers} {name : String}

/-- Every name is that of a header. -/
def Legal (headers : Headers) : Prop :=
  ∀ header ∈ headers, isName header.1 = true

/-! ## Characters of names -/

theorem isNameChar_toLower (c : Char) : isNameChar c.toLower = isNameChar c := by
  revert c
  refine Text.forall_char_of_ascii (by decide +kernel) fun c hc => ?_
  rw [Text.toLower_eq_self hc]

theorem isNameChar_toUpper (c : Char) : isNameChar c.toUpper = isNameChar c := by
  rw [← isNameChar_toLower c.toUpper, Text.toLower_toUpper, isNameChar_toLower]

theorem isName_asciiLower (h : isName name = true) : isName (Text.asciiLower name) = true := by
  unfold isName at h ⊢
  simp only [Bool.and_eq_true, decide_eq_true_eq, List.all_eq_true, ne_eq] at h ⊢
  obtain ⟨hne, hchars⟩ := h
  constructor
  · intro hempty
    have hnil : (Text.asciiLower name).toList = [] := by rw [hempty]; rfl
    rw [Text.toList_asciiLower, List.map_eq_nil_iff, String.toList_eq_nil_iff] at hnil
    exact hne hnil
  · intro c hc
    rw [Text.toList_asciiLower] at hc
    obtain ⟨written, hwritten, rfl⟩ := List.mem_map.1 hc
    rw [isNameChar_toLower]
    exact hchars written hwritten

/-- What can be read can be written again. -/
theorem isValue_of_isReadable {value : String} (h : isReadable value = true) :
    isValue value = true := by
  unfold isReadable at h
  unfold isValue
  simp only [List.all_eq_true, Bool.or_eq_true, Bool.and_eq_true, decide_eq_true_eq] at h ⊢
  intro c hc
  rcases h c hc with htab | ⟨hlow, hhigh⟩
  · exact Or.inl htab
  · exact Or.inr ⟨hlow, by omega⟩

/-! ## Values under a name -/

@[simp]
theorem values_append (headers more : Headers) (name : String) :
    values (headers ++ more) name = values headers name ++ values more name := by
  simp [values]

/-- Headers that all have one name hold their values under it, and nothing under any other. -/
theorem values_map_same (written : String) (values : List String) (name : String) :
    Headers.values (values.map fun value => (Text.asciiLower written, value)) name =
      if Text.asciiLower written = name then values else [] := by
  by_cases hname : Text.asciiLower written = name
  · subst hname
    simp [Headers.values, List.filter_map, Function.comp_def]
  · simp [Headers.values, hname, List.filter_map, Function.comp_def]

theorem mem_names_iff :
    name ∈ headers.names ↔ ∃ header ∈ headers, Text.asciiLower header.1 = name := by
  rw [names, List.mem_eraseDups, List.mem_map]

theorem asciiLower_of_mem_names (h : name ∈ headers.names) : Text.asciiLower name = name := by
  obtain ⟨header, -, rfl⟩ := mem_names_iff.1 h
  exact Text.asciiLower_asciiLower _

theorem isName_of_mem_names (hlegal : headers.Legal) (h : name ∈ headers.names) :
    isName name = true := by
  obtain ⟨header, hheader, rfl⟩ := mem_names_iff.1 h
  exact isName_asciiLower (hlegal header hheader)

theorem readable_of_not_mem_names (h : name ∉ headers.names) : headers.readable name = [] := by
  have hvalues : headers.values name = [] := by
    rw [values, List.map_eq_nil_iff, List.filter_eq_nil_iff]
    intro header hheader hname
    exact h (mem_names_iff.2 ⟨header, hheader, beq_iff_eq.1 hname⟩)
  rw [readable, hvalues, List.filter_nil]

theorem nodup_eraseDups (items : List String) : items.eraseDups.Nodup := by
  -- by the length, for the head is erased from all of the rest at once
  induction hlength : items.length using Nat.strongRecOn generalizing items with
  | ind length ih =>
    cases items with
    | nil => simp
    | cons item rest =>
      rw [List.eraseDups_cons, List.nodup_cons]
      refine ⟨by simp, ih _ ?_ _ rfl⟩
      have hle := List.length_filter_le (fun other => !other == item) rest
      rw [← hlength, List.length_cons]
      omega

theorem nodup_names (headers : Headers) : headers.names.Nodup :=
  nodup_eraseDups _

end Headers

namespace Identity

variable {name key : String}

/-! ## Capitalised keys -/

theorem toLower_canonicalChars (startsWord : Bool) (cs : List Char) :
    (canonicalChars startsWord cs).map Char.toLower = cs.map Char.toLower := by
  induction cs generalizing startsWord with
  | nil => rfl
  | cons c cs ih =>
    rw [canonicalChars, List.map_cons, List.map_cons, ih]
    cases startsWord with
    | false => exact congrArg (· :: _) (Text.toLower_toLower c)
    | true => exact congrArg (· :: _) (Text.toLower_toUpper c)

/-- Capitalising the words of a key changes nothing but capitals. -/
theorem asciiLower_canonicalKey (key : String) :
    Text.asciiLower (canonicalKey key) = Text.asciiLower key := by
  apply String.toList_inj.1
  rw [Text.toList_asciiLower, Text.toList_asciiLower, canonicalKey, String.toList_ofList,
    toLower_canonicalChars]

/-- So keys in small letters that are different stay different. -/
theorem canonicalKey_injOn {first second : String} (hfirst : Text.asciiLower first = first)
    (hsecond : Text.asciiLower second = second) (h : canonicalKey first = canonicalKey second) :
    first = second := by
  rw [← hfirst, ← hsecond, ← asciiLower_canonicalKey first, h, asciiLower_canonicalKey]

theorem all_isNameChar_canonicalChars (startsWord : Bool) (cs : List Char) :
    (canonicalChars startsWord cs).all Headers.isNameChar = cs.all Headers.isNameChar := by
  induction cs generalizing startsWord with
  | nil => rfl
  | cons c cs ih =>
    rw [canonicalChars, List.all_cons, List.all_cons, ih]
    cases startsWord <;> simp [Headers.isNameChar_toLower, Headers.isNameChar_toUpper]

/-! ## Headers of attributes -/

theorem extraKey?_eq_some_iff : extraKey? name = some key ↔ name = extraLead ++ key ∧ key ≠ "" := by
  rw [extraKey?, Option.filter_eq_some_iff, Text.stripLead?_eq_some_iff, decide_eq_true_eq]

theorem asciiLower_of_extraLead (hname : Text.asciiLower (extraLead ++ key) = extraLead ++ key) :
    Text.asciiLower key = key := by
  have hlead : Text.asciiLower extraLead = extraLead := by decide +kernel
  rw [Text.asciiLower_append, hlead] at hname
  exact (String.append_right_inj _).1 hname

end Identity

end FleetDashboard
