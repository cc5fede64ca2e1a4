import Mathlib.Data.List.DropRight
import Mathlib.Data.List.TakeWhile
import FleetDashboard.Uri
import FleetDashboard.Proofs.Outcome

/-!
# Addresses and their texts

An address is read from a text and shown as a text again, and the two need not be the same: the
usual schemes are written in small letters, a path is added where there is none, and a fragment is
dropped. But an address that is shown is in order already, and so is what is put below it: reading
that changes nothing any more.

* `Uri.Reads`: what the parts of an address are, by the form of the text it is read from.
* `Uri.reads_of_parse`: reading yields those parts.
* `Uri.parse_path`: a path alone is read as it is written.
* `Uri.Shown`: the forms of texts that addresses are shown as.
* `Uri.shown_text_of_parse`: an address that was read is shown in one of them, without a fragment.
* `Uri.text_of_parse_below`: what is read from a path below such a text is shown as it was written.
-/

namespace FleetDashboard

namespace Uri

variable {cs lead authority tail rest : List Char} {s : String} {uri : Uri}

/-! ## Schemes -/

/-- The scheme that is kept of the characters in front of the marks: the usual ones in small
letters. -/
def schemeOf (lead : List Char) : String :=
  let small := Text.asciiLower (String.ofList lead)
  if small = "http" || small = "https" then small else String.ofList lead

/-- The scheme that is kept is one of the usual ones or what was written. -/
theorem schemeOf_cases (lead : List Char) :
    schemeOf lead = "http" ∨ schemeOf lead = "https" ∨ schemeOf lead = String.ofList lead := by
  unfold schemeOf
  by_cases hhttp : Text.asciiLower (String.ofList lead) = "http"
  · simp [hhttp]
  · by_cases hhttps : Text.asciiLower (String.ofList lead) = "https"
    · simp [hhttps]
    · simp [hhttp, hhttps]

/-- A scheme that is kept would be kept as it is. -/
theorem schemeOf_schemeOf (lead : List Char) : schemeOf (schemeOf lead).toList = schemeOf lead := by
  rcases schemeOf_cases lead with h | h | h
  · rw [h]
    decide
  · rw [h]
    decide
  · rw [h, String.toList_ofList, h]

/-- A scheme that is kept consists of the characters of schemes. -/
theorem isSchemeChar_of_mem_schemeOf (hlead : ∀ c ∈ lead, isSchemeChar c = true) :
    ∀ c ∈ (schemeOf lead).toList, isSchemeChar c = true := by
  have hhttp : "http".toList.all isSchemeChar = true := by decide
  have hhttps : "https".toList.all isSchemeChar = true := by decide
  rcases schemeOf_cases lead with h | h | h
  · rw [h]
    exact List.all_eq_true.1 hhttp
  · rw [h]
    exact List.all_eq_true.1 hhttps
  · rw [h, String.toList_ofList]
    exact hlead

/-- The scheme in front of a text, the marks behind it and what follows make up the text, if there
is a scheme. -/
theorem splitScheme_eq_ok {scheme : Option String} (h : splitScheme cs = .ok (scheme, rest)) :
    scheme = none ∧ rest = cs ∨
      ∃ lead, scheme = some (schemeOf lead) ∧ (∀ c ∈ lead, isSchemeChar c = true) ∧
        cs = lead ++ ':' :: '/' :: '/' :: rest := by
  have hlead : ∀ c ∈ cs.takeWhile isSchemeChar, isSchemeChar c = true :=
    fun c hc => List.mem_takeWhile_imp hc
  have hwhole := List.prefix_iff_eq_append.1 (List.takeWhile_prefix (l := cs) isSchemeChar)
  unfold splitScheme at h
  extract_lets lead at h
  split at h
  next behind hdrop =>
    -- the marks are there; with nothing around them there is no scheme all the same
    have hcs : cs = lead ++ ':' :: '/' :: '/' :: behind := by
      rw [← hdrop]
      exact hwhole.symm
    split at h
    next =>
      cases h
      exact Or.inl ⟨rfl, rfl⟩
    next =>
      refine Or.inr ⟨lead, ?_⟩
      unfold schemeOf
      split at h
      next hsmall =>
        cases h
        exact ⟨by rw [if_pos hsmall], hlead, hcs⟩
      next hsmall =>
        split at h
        next => cases h
        next =>
          cases h
          exact ⟨by rw [if_neg hsmall], hlead, hcs⟩
  next =>
    cases h
    exact Or.inl ⟨rfl, rfl⟩

/-! ## Paths and queries -/

/-- A query with the mark in front of it, if there is one. -/
def queryText (query : Option String) : List Char :=
  match query with
  | some query => '?' :: query.toList
  | none => []

/-- What is left of a text behind its leading characters begins with another one. -/
theorem drop_takeWhile_cases (p : Char → Bool) (cs : List Char) :
    cs.drop (cs.takeWhile p).length = [] ∨
      ∃ c rest, cs.drop (cs.takeWhile p).length = c :: rest ∧ p c = false := by
  induction cs with
  | nil => exact Or.inl rfl
  | cons c cs ih =>
    by_cases hc : p c = true
    · rw [List.takeWhile_cons_of_pos hc, List.length_cons, List.drop_succ_cons]
      exact ih
    · rw [List.takeWhile_cons_of_neg hc]
      exact Or.inr ⟨c, cs, rfl, Bool.eq_false_iff.2 hc⟩

/-- A path and a query, put together, are the text up to the fragment, and no query begins within
the path. -/
theorem splitPath_eq_ok {path : String} {query : Option String}
    (h : splitPath cs = .ok (path, query)) :
    path.toList ++ queryText query = cs.takeWhile (· ≠ '#') ∧ '?' ∉ path.toList := by
  unfold splitPath at h
  extract_lets kept path' query' at h
  split at h
  next =>
    simp only [Except.ok.injEq, Prod.mk.injEq] at h
    obtain ⟨rfl, rfl⟩ := h
    rw [String.toList_ofList]
    refine ⟨?_, fun hmark => by simpa using List.mem_takeWhile_imp hmark⟩
    have hwhole := List.prefix_iff_eq_append.1 (List.takeWhile_prefix (l := kept) (· ≠ '?'))
    -- either the path is all that is kept, or the mark of a query stands behind it
    rcases drop_takeWhile_cases (· ≠ '?') kept with hdrop | ⟨c, rest, hdrop, hmark⟩
    · have hquery : query' = none := by
        simp only [query', path', hdrop]
      rw [hquery]
      rw [hdrop] at hwhole
      exact hwhole
    · have hquery : query' = some rest := by
        simp only [query', path', hdrop]
      have hc : c = '?' := by simpa using hmark
      rw [hquery]
      rw [hdrop, hc] at hwhole
      change path' ++ '?' :: (String.ofList rest).toList = kept
      rw [String.toList_ofList]
      exact hwhole
  next => cases h

theorem hash_not_mem_of_splitPath {path : String} {query : Option String}
    (h : splitPath cs = .ok (path, query)) : '#' ∉ path.toList ++ queryText query := by
  rw [(splitPath_eq_ok h).1]
  exact fun hmem => by simpa using List.mem_takeWhile_imp hmem

/-- A path that is not empty begins as the text does. -/
theorem head_of_splitPath {path : String} {query : Option String} {c : Char}
    (h : splitPath (c :: rest) = .ok (path, query)) (hne : path ≠ "") :
    c ≠ '?' ∧ c ≠ '#' ∧ ∃ below, path.toList = c :: below := by
  obtain ⟨htext, hmark⟩ := splitPath_eq_ok h
  cases hpath : path.toList with
  | nil => exact absurd (String.toList_eq_nil_iff.1 hpath) hne
  | cons first below =>
    rw [hpath] at htext hmark
    by_cases hhash : c = '#'
    · simp [hhash] at htext
    · rw [List.takeWhile_cons_of_pos (by simpa using hhash), List.cons_append, List.cons.injEq]
        at htext
      obtain ⟨rfl, -⟩ := htext
      exact ⟨fun hc => hmark (hc ▸ List.mem_cons_self), hhash, below, rfl⟩

/-- A path of characters that may stand in paths is read as it is written. -/
theorem parse_path {path : String} {below : List Char} (hroot : path.toList = '/' :: below)
    (hchars : ∀ c ∈ path.toList, isPathChar c = true) (hsize : path.utf8ByteSize ≤ maxBytes) :
    parse path =
      .ok { scheme := none, authority := "", writtenPath := path, query := none } := by
  have hkept : ∀ c ∈ path.toList, c ≠ '#' ∧ c ≠ '?' := by
    intro c hc
    constructor
    · rintro rfl
      exact absurd (hchars _ hc) (by decide)
    · rintro rfl
      exact absurd (hchars _ hc) (by decide)
  have hsplit : splitPath path.toList = .ok (path, none) := by
    -- neither a fragment nor a query begins anywhere
    have hfragment : path.toList.takeWhile (· ≠ '#') = path.toList :=
      List.takeWhile_eq_self_iff.2 fun c hc => decide_eq_true (hkept c hc).1
    have hquery : path.toList.takeWhile (· ≠ '?') = path.toList :=
      List.takeWhile_eq_self_iff.2 fun c hc => decide_eq_true (hkept c hc).2
    simp only [splitPath, hfragment, hquery, List.drop_length, List.all_eq_true.2 hchars]
    simp
  rw [parse, if_neg (by omega)]
  rw [hroot] at hsplit ⊢
  simp only [hsplit]
  rfl

/-! ## Reading -/

/-- What the parts of an address are, by the form of the text that it is read from. -/
inductive Reads (cs : List Char) (uri : Uri) : Prop
  /-- A path alone. -/
  | path (hroot : ∃ below, cs = '/' :: below) (hscheme : uri.scheme = none)
      (hauthority : uri.authority = "") (hpath : splitPath cs = .ok (uri.writtenPath, uri.query))
  /-- An authority alone, or the asterisk that stands for none. -/
  | bare (hchars : ∀ c ∈ cs, endsAuthority c = false) (htext : uri.text.toList = cs)
  /-- A scheme, an authority and a path. -/
  | absolute (lead authority tail : List Char)
      (hcs : cs = lead ++ ':' :: '/' :: '/' :: (authority ++ tail))
      (hlead : ∀ c ∈ lead, isSchemeChar c = true) (hne : authority ≠ [])
      (hauthority : ∀ c ∈ authority, endsAuthority c = false)
      (htail : tail = [] ∨ ∃ c rest, tail = c :: rest ∧ endsAuthority c = true)
      (hscheme : uri.scheme = some (schemeOf lead))
      (hkept : uri.authority = String.ofList authority)
      (hpath : splitPath tail = .ok (uri.writtenPath, uri.query))

/-- Reading yields the parts of the text. -/
theorem reads_of_parse (h : parse s = .ok uri) : Reads s.toList uri := by
  unfold parse at h
  split at h
  next => cases h
  next =>
    split at h
    next => cases h
    next below hroot =>
      obtain ⟨⟨path, query⟩, hpath, hok⟩ := bind_eq_ok_iff.1 h
      cases hok
      exact .path ⟨below, hroot⟩ rfl rfl (hroot ▸ hpath)
    next hstar =>
      cases h
      have hchars : ∀ c ∈ s.toList, endsAuthority c = false := by
        intro c hc
        rw [hstar, List.mem_singleton] at hc
        rw [hc]
        decide
      exact .bare hchars (by rw [hstar]; decide)
    next =>
      obtain ⟨⟨scheme, rest⟩, hscheme, h⟩ := bind_eq_ok_iff.1 h
      have hrest := List.prefix_iff_eq_append.1
        (List.takeWhile_prefix (l := rest) fun c => !endsAuthority c)
      have hchars : ∀ c ∈ rest.takeWhile (fun c => !endsAuthority c), endsAuthority c = false :=
        fun c hc => by simpa using List.mem_takeWhile_imp hc
      have htail := drop_takeWhile_cases (fun c => !endsAuthority c) rest
      dsimp only at h
      split at h
      next => cases h
      next =>
        obtain ⟨-, -, h⟩ := bind_eq_ok_iff.1 h
        generalize rest.takeWhile (fun c => !endsAuthority c) = authority at *
        generalize rest.drop authority.length = tail at *
        rcases splitScheme_eq_ok hscheme with ⟨rfl, rfl⟩ | ⟨lead, rfl, hlead, hcs⟩
        · -- without a scheme nothing may follow the authority
          dsimp only at h
          split at h
          next hend =>
            rw [List.isEmpty_iff.1 hend, List.append_nil] at hrest
            cases h
            subst hrest
            exact .bare hchars (by simp [text, path])
          next => cases h
        · dsimp only at h
          split at h
          next => cases h
          next hne =>
            obtain ⟨⟨path, query⟩, hpath, hok⟩ := bind_eq_ok_iff.1 h
            cases hok
            refine .absolute lead authority tail (hrest ▸ hcs) hlead ?_ hchars ?_ rfl rfl hpath
            · exact fun hnil => hne (List.isEmpty_iff.2 hnil)
            · simpa using htail

/-! ## Showing -/

/-- The forms of texts that addresses are shown as. -/
inductive Shown (cs : List Char) : Prop
  /-- A path alone. -/
  | path (below : List Char) (hcs : cs = '/' :: below)
  /-- An authority alone, or the asterisk that stands for none. -/
  | bare (hchars : ∀ c ∈ cs, endsAuthority c = false)
  /-- A scheme as it is kept, an authority and a path. -/
  | absolute (lead authority below : List Char)
      (hcs : cs = lead ++ ':' :: '/' :: '/' :: (authority ++ '/' :: below))
      (hlead : ∀ c ∈ lead, isSchemeChar c = true) (hkept : schemeOf lead = String.ofList lead)
      (hne : authority ≠ []) (hauthority : ∀ c ∈ authority, endsAuthority c = false)

/-- The text of a scheme with the marks behind it, if there is one. -/
def schemeText (scheme : Option String) : List Char :=
  match scheme with
  | some scheme => scheme.toList ++ [':', '/', '/']
  | none => []

theorem toList_text (uri : Uri) :
    uri.text.toList = schemeText uri.scheme ++ (uri.authority.toList ++
      (uri.path.toList ++ queryText uri.query)) := by
  unfold text schemeText queryText
  cases uri.scheme <;> cases uri.query <;> simp

/-- The path that is shown behind a scheme begins with a slash, and with the query it holds no
fragment. -/
theorem exists_path_of_splitPath (hscheme : uri.scheme.isSome = true)
    (hpath : splitPath tail = .ok (uri.writtenPath, uri.query))
    (htail : tail = [] ∨ ∃ c rest, tail = c :: rest ∧ endsAuthority c = true) :
    ∃ below, uri.path.toList ++ queryText uri.query = '/' :: below ∧ '#' ∉ below := by
  have hhash := hash_not_mem_of_splitPath hpath
  by_cases hwritten : uri.writtenPath = ""
  · -- a path that is not written is shown as the root
    have hroot : uri.path = "/" := by simp [path, hwritten, hscheme]
    rw [hroot]
    rw [hwritten] at hhash
    exact ⟨queryText uri.query, rfl, by simpa using hhash⟩
  · have hsame : uri.path = uri.writtenPath := by simp [path, hwritten]
    rw [hsame]
    rcases htail with rfl | ⟨c, rest, rfl, hend⟩
    · have hnone := (splitPath_eq_ok hpath).1
      rw [List.takeWhile_nil, List.append_eq_nil_iff] at hnone
      exact absurd (String.toList_eq_nil_iff.1 hnone.1) hwritten
    · obtain ⟨hquery, hfragment, below, hbelow⟩ := head_of_splitPath hpath hwritten
      have hc : c = '/' := by simpa [endsAuthority, hquery, hfragment] using hend
      subst hc
      rw [hbelow] at hhash ⊢
      exact ⟨below ++ queryText uri.query, rfl, fun hmem => hhash (List.mem_cons_of_mem _ hmem)⟩

/-- An address that was read is shown in one of the forms, without a fragment. -/
theorem shown_text_of_parse (h : parse s = .ok uri) :
    Shown uri.text.toList ∧ '#' ∉ uri.text.toList := by
  cases reads_of_parse h with
  | path hroot hscheme hauthority hpath =>
    obtain ⟨below, hroot⟩ := hroot
    rw [hroot] at hpath
    have hwritten : uri.writtenPath ≠ "" := by
      intro hempty
      have htext := (splitPath_eq_ok hpath).1
      rw [hempty] at htext
      cases hquery : uri.query <;> simp [hquery, queryText] at htext
    obtain ⟨-, -, written, hslash⟩ := head_of_splitPath hpath hwritten
    have htext : uri.text.toList = uri.writtenPath.toList ++ queryText uri.query := by
      rw [toList_text, hscheme, hauthority, path, if_pos hwritten]
      rfl
    rw [htext]
    refine ⟨?_, hash_not_mem_of_splitPath hpath⟩
    rw [hslash]
    exact .path _ rfl
  | bare hchars htext =>
    rw [htext]
    exact ⟨.bare hchars, fun hmem => absurd (hchars _ hmem) (by decide)⟩
  | absolute lead authority tail hcs hlead hne hauthority htail hscheme hkept hpath =>
    obtain ⟨below, hbelow, hhash⟩ :=
      exists_path_of_splitPath (by rw [hscheme]; rfl) hpath htail
    have hkeptLead := isSchemeChar_of_mem_schemeOf hlead
    have htext : uri.text.toList =
        (schemeOf lead).toList ++ ':' :: '/' :: '/' :: (authority ++ '/' :: below) := by
      rw [toList_text, hscheme, hkept, hbelow, String.toList_ofList, schemeText]
      simp
    rw [htext]
    refine ⟨.absolute _ authority below rfl hkeptLead ?_ hne hauthority, ?_⟩
    · rw [schemeOf_schemeOf, String.ofList_toList]
    · -- a number sign stands neither in a scheme nor in an authority
      have hleadHash : '#' ∉ (schemeOf lead).toList :=
        fun hmem => absurd (hkeptLead _ hmem) (by decide)
      have hauthorityHash : '#' ∉ authority := fun hmem => absurd (hauthority _ hmem) (by decide)
      simp [hleadHash, hauthorityHash, hhash]

/-! ## Reading what is shown -/

/-- A text is cut where the first character of another sort stands, in one way only. -/
theorem cut_unique {p : Char → Bool} {xs ys xs' ys' : List Char} {y y' : Char}
    (hxs : ∀ x ∈ xs, p x = true) (hy : p y = false) (hxs' : ∀ x ∈ xs', p x = true)
    (hy' : p y' = false) (h : xs ++ y :: ys = xs' ++ y' :: ys') :
    xs = xs' ∧ y = y' ∧ ys = ys' := by
  have hcut : ∀ {xs : List Char} {y : Char} (ys : List Char), (∀ x ∈ xs, p x = true) →
      p y = false → (xs ++ y :: ys).takeWhile p = xs := by
    intro xs y ys hxs hy
    rw [List.takeWhile_append_of_pos hxs, List.takeWhile_cons_of_neg (by simp [hy]),
      List.append_nil]
  have hlead : xs = xs' := by
    rw [← hcut ys hxs hy, h, hcut ys' hxs' hy']
  subst hlead
  have hrest := List.append_cancel_left h
  rw [List.cons.injEq] at hrest
  exact ⟨rfl, hrest⟩

/-- Nothing that begins with a slash has a scheme. -/
theorem slash_ne_absolute (hlead : ∀ c ∈ lead, isSchemeChar c = true) {below rest : List Char} :
    '/' :: below ≠ lead ++ ':' :: rest := by
  intro h
  cases lead with
  | nil =>
    rw [List.nil_append, List.cons.injEq] at h
    exact absurd h.1 (by decide)
  | cons first lead =>
    rw [List.cons_append, List.cons.injEq] at h
    have hfirst := hlead first List.mem_cons_self
    rw [← h.1] at hfirst
    exact absurd hfirst (by decide)

/-- The path and the query of a text that begins with a slash, put together, are the text, if it has
no fragment. -/
theorem path_of_slash (hpath : splitPath ('/' :: rest) = .ok (uri.writtenPath, uri.query))
    (hhash : '#' ∉ '/' :: rest) :
    uri.path.toList ++ queryText uri.query = '/' :: rest := by
  have htext := (splitPath_eq_ok hpath).1
  have hwhole : ('/' :: rest).takeWhile (· ≠ '#') = '/' :: rest := by
    rw [List.takeWhile_eq_self_iff]
    intro c hc
    rw [decide_eq_true_eq]
    rintro rfl
    exact hhash hc
  rw [hwhole] at htext
  have hwritten : uri.writtenPath ≠ "" := by
    intro hempty
    rw [hempty] at htext
    cases hquery : uri.query <;> simp [hquery, queryText] at htext
  rw [path, if_pos hwritten]
  exact htext

/-- What is shown is shown again when it is read. -/
theorem text_of_parse_of_shown (hshown : Shown s.toList) (hhash : '#' ∉ s.toList)
    (h : parse s = .ok uri) : uri.text = s := by
  rw [← String.toList_inj]
  cases reads_of_parse h with
  | bare hchars htext => exact htext
  | path hroot hscheme hauthority hpath =>
    obtain ⟨below, hroot⟩ := hroot
    rw [hroot] at hpath hhash ⊢
    rw [toList_text, hscheme, hauthority, path_of_slash hpath hhash]
    rfl
  | absolute lead authority tail hcs hlead hne hauthority htail hscheme hkept hpath =>
    cases hshown with
    | path below hroot => exact absurd (hroot.symm.trans hcs) (slash_ne_absolute hlead)
    | bare hchars =>
      have hslash : '/' ∈ s.toList := by simp [hcs]
      exact absurd (hchars _ hslash) (by decide)
    | absolute lead' authority' below hcs' hlead' hkept' hne' hauthority' =>
      -- scheme and authority end where they did before: at the first character of another sort
      have hmarks := hcs'.symm.trans hcs
      obtain ⟨rfl, -, hrest⟩ := cut_unique (p := isSchemeChar) hlead' (by decide) hlead (by decide)
        hmarks
      simp only [List.cons.injEq, true_and] at hrest
      rcases htail with rfl | ⟨c, rest, rfl, hend⟩
      · -- the path that is shown cannot stand within the authority
        have hslash : '/' ∈ authority := by
          rw [List.append_nil] at hrest
          simp [← hrest]
        exact absurd (hauthority _ hslash) (by decide)
      · obtain ⟨rfl, rfl, rfl⟩ := cut_unique (p := fun c => !endsAuthority c)
          (fun c hc => by simp [hauthority' c hc]) (by decide)
          (fun c hc => by simp [hauthority c hc]) (by simp [hend]) hrest
        have hbelow : '#' ∉ '/' :: below := by
          intro hmem
          rw [hcs'] at hhash
          exact hhash (by simp_all)
        rw [toList_text, hscheme, hkept, path_of_slash hpath hbelow, hkept', hcs']
        simp [schemeText]

/-! ## Below an address -/

/-- What stands in front of another character than those that are trimmed is not touched. -/
theorem rdropWhile_append {p : Char → Bool} {xs : List Char}
    (hlast : ∀ hne : xs ≠ [], ¬ p (xs.getLast hne) = true) (ys : List Char) :
    (xs ++ ys).rdropWhile p = xs ++ ys.rdropWhile p := by
  induction ys using List.reverseRecOn with
  | nil =>
    rw [List.append_nil, List.rdropWhile_nil, List.append_nil,
      List.rdropWhile_eq_self_iff.2 hlast]
  | append_singleton ys y ih =>
    rw [← List.append_assoc]
    by_cases hy : p y = true
    · rw [List.rdropWhile_concat_pos _ _ _ hy, List.rdropWhile_concat_pos _ _ _ hy, ih]
    · rw [List.rdropWhile_concat_neg _ _ _ hy, List.rdropWhile_concat_neg _ _ _ hy,
        List.append_assoc]

/-- What is left of a path without its trailing slashes is nothing, or begins with a slash. -/
theorem rdropWhile_path (below : List Char) :
    ('/' :: below).rdropWhile (· == '/') = [] ∨
      ∃ rest, ('/' :: below).rdropWhile (· == '/') = '/' :: rest := by
  have hlead := List.rdropWhile_prefix (· == '/') ('/' :: below)
  cases hleft : ('/' :: below).rdropWhile (· == '/') with
  | nil => exact Or.inl rfl
  | cons c rest =>
    rw [hleft, List.cons_prefix_cons] at hlead
    exact Or.inr ⟨rest, by rw [hlead.1]⟩

/-- A path below what is shown is in one of the forms again, unless it is put behind an authority
alone. -/
theorem shown_below {base : List Char} (hshown : Shown base) (below : List Char) :
    Shown (base.rdropWhile (· == '/') ++ '/' :: below) ∨
      base ≠ [] ∧ (∀ c ∈ base, endsAuthority c = false) := by
  cases hshown with
  | path rest hbase =>
    subst hbase
    rcases rdropWhile_path rest with hleft | ⟨rest', hleft⟩
    · rw [hleft]
      exact Or.inl (.path _ rfl)
    · rw [hleft]
      exact Or.inl (.path _ rfl)
  | bare hchars =>
    by_cases hnil : base = []
    · rw [hnil]
      exact Or.inl (.path _ rfl)
    · exact Or.inr ⟨hnil, hchars⟩
  | absolute lead authority rest hbase hlead hkept hne hauthority =>
    -- the authority ends in something else than a slash, so only the path is trimmed
    have hsplit : base = (lead ++ [':', '/', '/'] ++ authority) ++ '/' :: rest := by
      rw [hbase]
      simp
    have hlast : ∀ hne : lead ++ [':', '/', '/'] ++ authority ≠ [],
        ¬ ((lead ++ [':', '/', '/'] ++ authority).getLast hne == '/') = true := by
      intro hwhole hslash
      rw [List.getLast_append_of_right_ne_nil _ _ hne, beq_iff_eq] at hslash
      exact absurd (hauthority _ (hslash ▸ List.getLast_mem hne)) (by decide)
    rw [hsplit, rdropWhile_append hlast]
    rcases rdropWhile_path rest with hleft | ⟨rest', hleft⟩
    · rw [hleft]
      exact Or.inl (.absolute lead authority below (by simp) hlead hkept hne hauthority)
    · rw [hleft]
      exact Or.inl (.absolute lead authority (rest' ++ '/' :: below) (by simp) hlead hkept hne
        hauthority)

/-- Behind an authority alone there is no room for a path: such a text is no address. -/
theorem parse_ne_ok_of_authority {base : List Char} {c : Char} (hne : base ≠ [])
    (hchars : ∀ c ∈ base, endsAuthority c = false) (hs : s.toList = base ++ '/' :: c :: rest)
    (hc : c ≠ '/') : parse s ≠ .ok uri := by
  intro h
  have hslash : ∀ c ∈ base, decide (c ≠ '/') = true := by
    intro c hmem
    rw [decide_eq_true_eq]
    rintro rfl
    exact absurd (hchars _ hmem) (by decide)
  cases reads_of_parse h with
  | bare hall =>
    have hmem : '/' ∈ s.toList := by simp [hs]
    exact absurd (hall _ hmem) (by decide)
  | path hroot =>
    -- the text begins with the authority, not with a slash
    obtain ⟨rest', hroot⟩ := hroot
    rw [hs] at hroot
    cases base with
    | nil => exact absurd rfl hne
    | cons first others =>
      rw [List.cons_append, List.cons.injEq] at hroot
      have hfirst := hchars first List.mem_cons_self
      rw [hroot.1] at hfirst
      exact absurd hfirst (by decide)
  | absolute lead authority tail hcs hlead =>
    -- its first slash would be the first of the two marks behind a scheme, but no other follows it
    have hcs' : base ++ '/' :: c :: rest =
        (lead ++ [':']) ++ '/' :: '/' :: (authority ++ tail) := by
      rw [← hs, hcs]
      simp
    have hscheme : ∀ c ∈ lead ++ [':'], decide (c ≠ '/') = true := by
      intro c hmem
      rw [decide_eq_true_eq]
      rintro rfl
      rcases List.mem_append.1 hmem with hmem | hmem
      · exact absurd (hlead _ hmem) (by decide)
      · exact absurd hmem (by decide)
    obtain ⟨-, -, hrest⟩ := cut_unique hslash (by decide) hscheme (by decide) hcs'
    rw [List.cons.injEq] at hrest
    exact absurd hrest.1 hc

/-- An address that is read from a path below the text of another one is shown as it was written. -/
theorem text_of_parse_below {base : Uri} {written below : String} {c : Char}
    (hbase : parse written = .ok base) (hbelow : below.toList = '/' :: c :: rest) (hc : c ≠ '/')
    (hhash : '#' ∉ below.toList) (h : parse (Text.trimEnd '/' base.text ++ below) = .ok uri) :
    uri.text = Text.trimEnd '/' base.text ++ below := by
  obtain ⟨hshown, hbaseHash⟩ := shown_text_of_parse hbase
  have hwhole : (Text.trimEnd '/' base.text ++ below).toList =
      base.text.toList.rdropWhile (· == '/') ++ '/' :: c :: rest := by
    rw [String.toList_append, Text.trimEnd, String.toList_ofList, hbelow]
    rfl
  rcases shown_below hshown (c :: rest) with hagain | ⟨hne, hchars⟩
  · refine text_of_parse_of_shown (hwhole ▸ hagain) ?_ h
    rw [hwhole, List.mem_append, not_or, ← hbelow]
    exact ⟨fun hmem => hbaseHash ((List.rdropWhile_prefix _ _).subset hmem), hhash⟩
  · -- an authority alone does not end in a slash
    have hleft : base.text.toList.rdropWhile (· == '/') = base.text.toList := by
      rw [List.rdropWhile_eq_self_iff]
      intro hne' hslash
      rw [beq_iff_eq] at hslash
      exact absurd (hchars _ (hslash ▸ List.getLast_mem hne')) (by decide)
    rw [hleft] at hwhole
    exact absurd h (parse_ne_ok_of_authority hne hchars hwhole hc)

end Uri

end FleetDashboard
