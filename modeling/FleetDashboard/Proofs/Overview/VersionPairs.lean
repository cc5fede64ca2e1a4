import Mathlib.Data.List.Nodup
import Mathlib.Data.List.Perm.Basic
import FleetDashboard.Proofs.Overview.Version
import FleetDashboard.Proofs.Text.Pieces

/-!
# Which pairs of a version record count

A version record is read from the text between the first opening brace and the next closing one. Of
the pieces between its commas only those count that name a known key in front of their first colon,
and of several that name the same key only the last one. All other pieces might as well not be
there, and pieces that name different keys might stand in any order.

* `VersionRecord.IsBraced`: the text that is read; `VersionRecord.Names`: a piece that names a key.
* `VersionRecord.entry?_eq_some_iff`: what a piece is read to.
* `VersionRecord.get_setAll_append_cons`: the last value that is set counts;
  `VersionRecord.setAll_perm`: values of different keys are set in any order.
* `VersionRecord.readsLastPairs`: which pairs count, in any output.
-/

namespace FleetDashboard

theorem VersionKey.ofName?_eq_some_iff {name : String} {key : VersionKey} :
    ofName? name = some key ↔ name = key.name := by
  constructor
  · intro hfound
    have heq := List.find?_some hfound
    exact (beq_iff_eq.1 heq).symm
  · rintro rfl
    cases key <;> decide

namespace VersionRecord

variable {output other : String} {body otherBody piece : List Char} {pieces : List (List Char)}
  {key : VersionKey} {value : String} {record : VersionRecord}

/-! ## Pieces -/

/-- A piece names a key: the key's name stands in front of its first colon, with or without blanks
around it. -/
def Names (piece : List Char) (key : VersionKey) : Prop :=
  ∃ name behind, piece = name ++ ':' :: behind ∧ ':' ∉ name ∧ Text.trim name = key.name.toList

/-- That a piece is trimmed before it is split makes no difference to what it is read to. -/
theorem entry?_eq (piece : List Char) :
    entry? piece = (Text.splitOnce ':' piece).bind fun (name, behind) =>
      (VersionKey.ofName? (String.ofList (Text.trim name))).map
        fun key => (key, valueOf behind) := by
  have hsplit := Text.splitOnce_trimWhile (by decide : Text.isBlank ':' = false) piece
  unfold entry? valueOf Text.trim
  rw [hsplit]
  cases Text.splitOnce ':' piece with
  | none => rfl
  | some parts =>
    simp only [Option.map_some, Option.bind_eq_bind, Option.bind_some, Option.pure_def,
      Text.trimWhile_dropWhile, Text.trimWhile_rdropWhile]
    cases VersionKey.ofName? (String.ofList (Text.trimWhile Text.isBlank parts.1)) <;> rfl

/-- A piece is read to the key that it names and the value behind its first colon. -/
theorem entry?_eq_some_iff :
    entry? piece = some (key, value) ↔
      ∃ name behind, piece = name ++ ':' :: behind ∧ ':' ∉ name ∧
        Text.trim name = key.name.toList ∧ value = valueOf behind := by
  rw [entry?_eq]
  constructor
  · intro hentry
    obtain ⟨⟨name, behind⟩, hsplit, hkey⟩ := Option.bind_eq_some_iff.1 hentry
    obtain ⟨known, hknown, heq⟩ := Option.map_eq_some_iff.1 hkey
    cases heq
    obtain ⟨hpiece, hname⟩ := Text.splitOnce_eq_some_iff.1 hsplit
    refine ⟨name, behind, hpiece, hname, ?_, rfl⟩
    rw [← VersionKey.ofName?_eq_some_iff.1 hknown, String.toList_ofList]
  · rintro ⟨name, behind, hpiece, hname, htrim, rfl⟩
    have hknown : VersionKey.ofName? (String.ofList (Text.trim name)) = some key := by
      rw [htrim, String.ofList_toList]
      exact VersionKey.ofName?_eq_some_iff.2 rfl
    simp [Text.splitOnce_eq_some_iff.2 ⟨hpiece, hname⟩, hknown]

theorem names_of_eq_some {entry : VersionKey × String} (h : entry? piece = some entry) :
    Names piece entry.1 := by
  obtain ⟨name, behind, hpiece, hname, htrim, -⟩ := entry?_eq_some_iff.1 h
  exact ⟨name, behind, hpiece, hname, htrim⟩

/-- A piece that names no key is passed over. -/
theorem entry?_eq_none (h : ∀ key, ¬ Names piece key) : entry? piece = none :=
  Option.eq_none_iff_forall_not_mem.2 fun entry hentry => h entry.1 (names_of_eq_some hentry)

/-! ## Setting values in a row -/

/-- The record after some values have been set, the earliest first. -/
def setAll (record : VersionRecord) (entries : List (VersionKey × String)) : VersionRecord :=
  entries.foldl (fun record (key, value) => record.set key value) record

theorem setAll_append (record : VersionRecord) (before after : List (VersionKey × String)) :
    record.setAll (before ++ after) = (record.setAll before).setAll after :=
  List.foldl_append

/-- A value stays if none is set for its key. -/
theorem get_setAll_of_forall_ne {entries : List (VersionKey × String)}
    (h : ∀ entry ∈ entries, entry.1 ≠ key) : (record.setAll entries).get key = record.get key := by
  have hnone : entries.reverse.find? (fun entry => entry.1 == key) = none :=
    List.find?_eq_none.2 fun entry hentry => by simpa using h entry (List.mem_reverse.1 hentry)
  rw [setAll, get_foldl_set, hnone]
  rfl

/-- The last value that is set for a key counts. -/
theorem get_setAll_append_cons {before after : List (VersionKey × String)}
    (h : ∀ entry ∈ after, entry.1 ≠ key) :
    (record.setAll (before ++ (key, value) :: after)).get key = value := by
  rw [setAll_append]
  show ((((record.setAll before).set key value).setAll after)).get key = value
  rw [get_setAll_of_forall_ne h, get_set, if_pos rfl]

/-- Values of different keys can be set in either order. -/
theorem set_comm {first second : VersionKey} (h : first ≠ second) (record : VersionRecord)
    (value other : String) :
    (record.set first value).set second other = (record.set second other).set first value := by
  refine ext_get fun key => ?_
  simp only [get_set]
  split
  next hsecond =>
    have hfirst : key ≠ first := fun heq => h (heq.symm.trans hsecond)
    rw [if_neg hfirst]
  next => rfl

/-- Values of keys that are all different can be set in any order. -/
theorem setAll_perm {entries others : List (VersionKey × String)} (hperm : entries.Perm others)
    (hdistinct : (entries.map (·.1)).Nodup) (record : VersionRecord) :
    record.setAll entries = record.setAll others := by
  refine hperm.foldl_eq' ?_ record
  intro first hfirst second hsecond record
  by_cases hkey : first.1 = second.1
  · -- there is only one value for a key
    rw [List.inj_on_of_nodup_map hdistinct hfirst hsecond hkey]
  · exact set_comm hkey record first.2 second.2

/-! ## Reading the pieces -/

/-- A text stands in an output between the first opening brace and the next closing one. -/
def IsBraced (output : String) (body : List Char) : Prop :=
  ∃ lead rest, output.toList = lead ++ '\x7b' :: (body ++ '\x7d' :: rest) ∧ '\x7b' ∉ lead ∧
    '\x7d' ∉ body

/-- The values of the pieces are set in a row. -/
theorem parse_of_isBraced (h : IsBraced output body) :
    parse output = empty.setAll ((Text.split ',' body).filterMap entry?) := by
  obtain ⟨lead, rest, houtput, hlead, hbody⟩ := h
  have houtside := Text.splitOnce_eq_some_iff.2 ⟨houtput, hlead⟩
  have hinside := Text.splitOnce_eq_some_iff.2
    ⟨(rfl : body ++ '\x7d' :: rest = body ++ '\x7d' :: rest), hbody⟩
  have hbraced : braced? output.toList = some body := by
    simp only [braced?, houtside, hinside, Option.bind_eq_bind, Option.bind_some, Option.pure_def]
  rw [parse, hbraced]
  rfl

/-- Pieces that do not name a key have no value for it. -/
theorem forall_ne_of_forall_not_names (h : ∀ piece ∈ pieces, ¬ Names piece key) :
    ∀ entry ∈ pieces.filterMap entry?, entry.1 ≠ key := by
  rintro entry hentry rfl
  obtain ⟨piece, hpiece, hread⟩ := List.mem_filterMap.1 hentry
  exact h piece hpiece (names_of_eq_some hread)

/-- Pieces of which no two name the same key are read to different keys. -/
theorem nodup_keys
    (h : pieces.Pairwise fun piece later => ∀ key, Names piece key → ¬ Names later key) :
    ((pieces.filterMap entry?).map (·.1)).Nodup := by
  rw [List.Nodup, List.pairwise_map, List.pairwise_filterMap]
  refine h.imp fun {piece later} hapart entry hentry other hother heq => ?_
  exact hapart entry.1 (names_of_eq_some hentry) (heq ▸ names_of_eq_some hother)

/-! ## The pairs that count -/

/-- Which pairs count of an output. -/
structure ReadsLastPairs (output : String) : Prop where
  /-- Nothing is read if there is no opening brace, or no closing one behind the first of them. -/
  unbraced :
    ('\x7b' ∉ output.toList ∨ ∃ lead inside, output.toList = lead ++ '\x7b' :: inside ∧
      '\x7b' ∉ lead ∧ '\x7d' ∉ inside) →
    parse output = empty
  /-- The value of a key is what stands behind the first colon of the last piece that names it,
  without the blanks around it and then without the quotes. -/
  last : ∀ body, IsBraced output body → ∀ key before name behind after,
    Text.split ',' body = before ++ (name ++ ':' :: behind) :: after →
    ':' ∉ name → Text.trim name = key.name.toList → (∀ later ∈ after, ¬ Names later key) →
    (parse output).get key =
      String.ofList (Text.trimWhile (· == '"') (Text.trimWhile Text.isBlank behind))
  /-- The value of a key that no piece names is empty. -/
  absent : ∀ body, IsBraced output body → ∀ key,
    (∀ piece ∈ Text.split ',' body, ¬ Names piece key) → (parse output).get key = ""
  /-- Pieces that name no known key can be put in or taken out. -/
  inserted : ∀ other body otherBody, IsBraced output body → IsBraced other otherBody →
    ∀ before strange after, Text.split ',' body = before ++ after →
    Text.split ',' otherBody = before ++ strange ++ after →
    (∀ piece ∈ strange, ∀ key, ¬ Names piece key) →
    parse other = parse output
  /-- Pieces of which no two name the same known key can be put in another order. -/
  permuted : ∀ other body otherBody, IsBraced output body → IsBraced other otherBody →
    ∀ before pieces others after, Text.split ',' body = before ++ pieces ++ after →
    Text.split ',' otherBody = before ++ others ++ after → pieces.Perm others →
    (pieces.Pairwise fun piece later => ∀ key, Names piece key → ¬ Names later key) →
    parse other = parse output

/-- Of whatever a component puts out, the last pair of each known key counts and nothing else. -/
theorem readsLastPairs (output : String) : ReadsLastPairs output := by
  refine ⟨?_, ?_, ?_, ?_, ?_⟩
  · intro hnone
    have hbraced : braced? output.toList = none := by
      rcases hnone with hopening | ⟨lead, inside, houtput, hlead, hinside⟩
      · simp [braced?, Text.splitOnce_eq_none_iff.2 hopening]
      · have houtside := Text.splitOnce_eq_some_iff.2 ⟨houtput, hlead⟩
        simp [braced?, houtside, Text.splitOnce_eq_none_iff.2 hinside]
    rw [parse, hbraced]
  · intro body hbody key before name behind after hpieces hname htrim hlast
    have hentry : entry? (name ++ ':' :: behind) = some (key, valueOf behind) :=
      entry?_eq_some_iff.2 ⟨name, behind, rfl, hname, htrim, rfl⟩
    rw [parse_of_isBraced hbody, hpieces, List.filterMap_append, List.filterMap_cons_some hentry,
      get_setAll_append_cons (forall_ne_of_forall_not_names hlast)]
    rfl
  · intro body hbody key habsent
    rw [parse_of_isBraced hbody, get_setAll_of_forall_ne (forall_ne_of_forall_not_names habsent),
      get_empty]
  · intro other body otherBody hbody hother before strange after hpieces hmore hstrange
    have hnone : strange.filterMap entry? = [] :=
      List.filterMap_eq_nil_iff.2 fun piece hpiece => entry?_eq_none (hstrange piece hpiece)
    rw [parse_of_isBraced hbody, parse_of_isBraced hother, hpieces, hmore]
    simp only [List.filterMap_append, hnone, List.append_nil]
  · intro other body otherBody hbody hother before pieces others after hpieces hothers hperm hapart
    rw [parse_of_isBraced hbody, parse_of_isBraced hother, hpieces, hothers]
    simp only [List.filterMap_append, setAll_append]
    -- the order matters neither to what was set before nor to what is set afterwards
    rw [setAll_perm (hperm.filterMap entry?) (nodup_keys hapart)]

/-- A later pair takes the place of an earlier one, and a brace that is opened once more belongs to
the value, as a second colon does. -/
example :
    let output := "\x7bGitVersion:\"v1\", dirty, Compiler :gc, GitVersion:\"v2:\x7b\" \x7d\x7d"
    (parse output).gitVersion = "v2:\x7b" ∧ (parse output).compiler = "gc" := by
  decide +kernel

end VersionRecord

end FleetDashboard
