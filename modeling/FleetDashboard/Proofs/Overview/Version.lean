import FleetDashboard.Overview.Version
import FleetDashboard.Proofs.Text.Quoted

/-!
# Which version records are read back

A version record is printed with its values in quotes and read without regard to them: reading cuts
the text at the first closing brace and at every comma, and what is escaped stays so. A record is
therefore read back exactly when its values hold nothing at which reading cuts and nothing that is
escaped. One value that holds such a character is enough to lose it, and may take others with it.

* `VersionRecord.get_parse`: each key has the value of its last entry.
* `VersionRecord.of_mem_get_parse`: which characters a value that was read may hold.
* `VersionRecord.get_parse_text`: what is read from a printed record that is not cut apart.
* `VersionRecord.not_mem_of_parse_text`, `VersionRecord.parse_text_of_isPlain`: why some records are
  not read back, and why others are.
* `VersionRecord.parse_text_eq_self_iff`: which records are read back.
-/

namespace FleetDashboard.VersionRecord

variable {record : VersionRecord} {output : String} {key : VersionKey} {c : Char}

/-! ## Reading -/

/-- Setting some values in a row leaves the last one of each key, or the one that there was. -/
theorem get_foldl_set (entries : List (VersionKey × String)) (record : VersionRecord)
    (key : VersionKey) :
    (entries.foldl (fun record (key, value) => record.set key value) record).get key =
      ((entries.reverse.find? fun entry => entry.1 == key).map (·.2)).getD (record.get key) := by
  induction entries generalizing record with
  | nil => rfl
  | cons entry rest ih =>
    rw [List.foldl_cons, ih, get_set, List.reverse_cons, List.find?_append]
    -- an entry counts only if none behind it has its key
    cases hlater : rest.reverse.find? fun other => other.1 == key with
    | some later => rfl
    | none =>
      by_cases hkey : key = entry.1
      · simp [hkey]
      · have hkey' : ¬ entry.1 = key := fun h => hkey h.symm
        simp [hkey, hkey']

/-- Each key has the value of its last entry, and the empty one if it has no entry. -/
theorem get_parse (output : String) (key : VersionKey) :
    (parse output).get key =
      ((((braced? output.toList).map entries).getD []).reverse.find? fun entry =>
        entry.1 == key).elim "" (·.2) := by
  unfold parse
  cases braced? output.toList with
  | none => simp
  | some body =>
    rw [get_foldl_set, get_empty]
    simp only [Option.map_some, Option.getD_some]
    cases (entries body).reverse.find? fun entry => entry.1 == key <;> rfl

theorem mem_of_mem_valueOf {cs : List Char} (h : c ∈ (valueOf cs).toList) : c ∈ cs := by
  rw [valueOf, String.toList_ofList] at h
  exact Text.mem_of_mem_trimWhile (Text.mem_of_mem_trimWhile h)

/-- A value that was read holds characters of the text, and none at which the text was cut. -/
theorem of_mem_get_parse (h : c ∈ ((parse output).get key).toList) :
    c ∈ output.toList ∧ c ≠ ',' ∧ c ≠ '\x7d' := by
  rw [get_parse] at h
  cases hbraced : braced? output.toList with
  | none => simp [hbraced] at h
  | some body =>
    simp only [hbraced, Option.map_some, Option.getD_some] at h
    cases hfound : (entries body).reverse.find? fun entry => entry.1 == key with
    | none => simp [hfound] at h
    | some entry =>
      rw [hfound] at h
      -- the value is trimmed from what follows the colon in one of the pieces
      obtain ⟨piece, hpiece, hentry⟩ := List.mem_filterMap.1
        (List.mem_reverse.1 (List.mem_of_find?_eq_some hfound))
      obtain ⟨⟨name, value⟩, hcolon, hkey⟩ := Option.bind_eq_some_iff.1 hentry
      obtain ⟨known, -, hvalue⟩ := Option.bind_eq_some_iff.1 hkey
      cases hvalue
      have hc : c ∈ piece := by
        have hmem : c ∈ Text.trim piece := by
          rw [(Text.splitOnce_eq_some_iff.1 hcolon).1]
          exact List.mem_append_right _ (List.mem_cons_of_mem _ (mem_of_mem_valueOf h))
        exact Text.mem_of_mem_trimWhile hmem
      -- and the piece is cut from the text between the braces
      obtain ⟨⟨before, inside⟩, hopening, hclosing⟩ := Option.bind_eq_some_iff.1 hbraced
      obtain ⟨⟨body', after⟩, hclosing, hbody⟩ := Option.bind_eq_some_iff.1 hclosing
      cases hbody
      obtain ⟨houtput, -⟩ := Text.splitOnce_eq_some_iff.1 hopening
      obtain ⟨hinside, hnone⟩ := Text.splitOnce_eq_some_iff.1 hclosing
      have hbody : c ∈ body := Text.mem_of_mem_split hpiece hc
      refine ⟨?_, ?_, ?_⟩
      · rw [houtput, hinside]
        simp [hbody]
      · rintro rfl
        exact Text.not_mem_of_mem_split hpiece hc
      · rintro rfl
        exact hnone hbody

/-! ## Printing -/

/-- One pair as it stands between two commas. -/
def piece (record : VersionRecord) (key : VersionKey) : List Char :=
  (if key = .gitVersion then [] else [' ']) ++ (record.pairText key).toList

theorem toList_pairText (record : VersionRecord) (key : VersionKey) :
    (record.pairText key).toList =
      key.name.toList ++ ':' :: Text.quoteChars (record.get key).toList := by
  simp [pairText, Text.quote]

/-- The printed record is its pieces in braces, behind its name. -/
theorem toList_text (record : VersionRecord) :
    record.text.toList = "version.Info".toList ++
      '\x7b' :: (Text.join ',' (VersionKey.all.map record.piece) ++ ['\x7d']) := by
  simp [text, VersionKey.all, piece, Text.join]

/-- Whatever a record holds, its text is shown. -/
theorem isShown_of_mem_text (h : c ∈ record.text.toList) : Text.isShown c = true := by
  have hpair : ∀ key, c ∈ (record.pairText key).toList → Text.isShown c = true := by
    intro key hc
    rw [toList_pairText, List.mem_append, List.mem_cons] at hc
    rcases hc with hname | rfl | hvalue
    · have hnames : key.name.toList.all Text.isShown = true := by
        cases key <;> decide
      exact List.all_eq_true.1 hnames c hname
    · decide
    · exact Text.isShown_of_mem_quoteChars hvalue
  rw [toList_text, List.mem_append, List.mem_cons, List.mem_append, List.mem_singleton] at h
  rcases h with hlead | rfl | hpieces | rfl
  · have hshown : "version.Info".toList.all Text.isShown = true := by decide
    exact List.all_eq_true.1 hshown c hlead
  · decide
  · rcases Text.mem_join hpieces with rfl | ⟨piece, hpiece, hc⟩
    · decide
    · obtain ⟨key, -, rfl⟩ := List.mem_map.1 hpiece
      rcases List.mem_append.1 hc with hblank | hpairText
      · split at hblank
        · cases hblank
        · rw [List.mem_singleton] at hblank
          exact hblank ▸ by decide
      · exact hpair key hpairText
  · decide

/-! ## Reading what was printed -/

/-- The value is shown and holds nothing at which reading cuts. -/
def Uncut (cs : List Char) : Prop :=
  ∀ c ∈ cs, Text.isShown c = true ∧ c ≠ ',' ∧ c ≠ '\x7d'

/-- A value in quotes is read without the quotes, those at its own ends included. -/
theorem valueOf_quoteChars (cs : List Char) :
    valueOf (Text.quoteChars cs) =
      String.ofList (Text.trimWhile (· == '"') (Text.quoteBody cs)) := by
  have hends : Text.trim (Text.quoteChars cs) = Text.quoteChars cs := by
    refine Text.trimWhile_eq_self ?_ ?_
    · rintro c ⟨⟩
      decide
    · intro c hc
      rw [Text.quoteChars, List.getLast?_concat, Option.mem_some_iff] at hc
      exact hc ▸ by decide
  rw [valueOf, hends, Text.quoteChars, Text.trimWhile_append_singleton (by decide),
    Text.trimWhile_cons (by decide)]

/-- A piece is read to its key and its value. -/
theorem entry?_piece (record : VersionRecord) (key : VersionKey) :
    entry? (record.piece key) =
      some (key, valueOf (Text.quoteChars (record.get key).toList)) := by
  have hpair := toList_pairText record key
  -- the blank in front is dropped, and a pair begins with a letter and ends with a quote
  have htrim : Text.trim (record.piece key) = (record.pairText key).toList := by
    have hself : Text.trim (record.pairText key).toList = (record.pairText key).toList := by
      refine Text.trimWhile_eq_self ?_ ?_
      · rw [hpair]
        cases key <;> (rintro c ⟨⟩; decide)
      · intro c hc
        rw [hpair, Text.quoteChars, ← List.cons_append, ← List.append_assoc,
          List.getLast?_concat, Option.mem_some_iff] at hc
        exact hc ▸ by decide
    unfold piece
    split
    · exact hself
    · exact (Text.trimWhile_cons (by decide) _).trans hself
  have hcolon : Text.splitOnce ':' (record.pairText key).toList =
      some (key.name.toList, Text.quoteChars (record.get key).toList) := by
    refine Text.splitOnce_eq_some_iff.2 ⟨hpair, ?_⟩
    cases key <;> decide
  have hname : VersionKey.ofName? (String.ofList (Text.trim key.name.toList)) = some key := by
    cases key <;> decide
  unfold entry?
  simp [htrim, hcolon, hname]

/-- A printed record with values that are not cut apart is cut into its pieces. -/
theorem braced?_text (h : ∀ key, Uncut (record.get key).toList) :
    braced? record.text.toList = some (Text.join ',' (VersionKey.all.map record.piece)) ∧
      Text.split ',' (Text.join ',' (VersionKey.all.map record.piece)) =
        VersionKey.all.map record.piece := by
  have hpiece : ∀ key, ∀ c ∈ record.piece key, c ≠ ',' ∧ c ≠ '\x7d' := by
    intro key c hc
    rw [piece, List.mem_append, toList_pairText, List.mem_append, List.mem_cons] at hc
    rcases hc with hblank | hname | rfl | hquoted
    · split at hblank
      · cases hblank
      · rw [List.mem_singleton] at hblank
        exact hblank ▸ by decide
    · have hcomma : ',' ∉ key.name.toList := by cases key <;> decide
      have hclose : '\x7d' ∉ key.name.toList := by cases key <;> decide
      exact ⟨fun hc => hcomma (hc ▸ hname), fun hc => hclose (hc ▸ hname)⟩
    · decide
    · rw [Text.quoteChars, List.mem_append, List.mem_cons, List.mem_singleton] at hquoted
      rcases hquoted with (rfl | hbody) | rfl
      · decide
      · -- escapes of characters that are shown bring in backslashes only
        rcases Text.mem_or_eq_of_mem_quoteBody (fun c hc => (h key c hc).1) hbody with hc | rfl
        · exact (h key c hc).2
        · decide
      · decide
  constructor
  · have hclosing : '\x7d' ∉ Text.join ',' (VersionKey.all.map record.piece) := by
      intro hmem
      rcases Text.mem_join hmem with hsep | ⟨piece, hpieces, hc⟩
      · exact absurd hsep (by decide)
      · obtain ⟨key, -, rfl⟩ := List.mem_map.1 hpieces
        exact (hpiece key _ hc).2 rfl
    have houtside := Text.splitOnce_eq_some_iff.2 ⟨record.toList_text, by decide⟩
    have hinside := Text.splitOnce_eq_some_iff.2
      ⟨(rfl : _ = Text.join ',' (VersionKey.all.map record.piece) ++ '\x7d' :: []), hclosing⟩
    simp only [braced?, houtside, hinside, Option.bind_eq_bind, Option.bind_some, Option.pure_def]
  · refine Text.split_join (by simp [VersionKey.all]) fun piece hpieces hmem => ?_
    obtain ⟨key, -, rfl⟩ := List.mem_map.1 hpieces
    exact (hpiece key _ hmem).1 rfl

/-- Of a printed record with values that are not cut apart, each value is read as it stands between
the quotes. -/
theorem get_parse_text (h : ∀ key, Uncut (record.get key).toList) (key : VersionKey) :
    (parse record.text).get key = valueOf (Text.quoteChars (record.get key).toList) := by
  obtain ⟨hbraced, hsplit⟩ := braced?_text h
  have hentries : entries (Text.join ',' (VersionKey.all.map record.piece)) =
      VersionKey.all.map fun key =>
        (key, valueOf (Text.quoteChars (record.get key).toList)) := by
    rw [entries, hsplit, List.filterMap_map]
    have hentry : entry? ∘ record.piece = fun key =>
        some (key, valueOf (Text.quoteChars (record.get key).toList)) :=
      funext fun key => entry?_piece record key
    rw [hentry, List.filterMap_eq_map']
  rw [parse, hbraced]
  simp only [hentries]
  -- each key is set once
  cases key <;> rfl

/-! ## Records that are read back -/

/-- A record that is read back has values that are not cut apart: they were read from a text that is
shown, and lie between its cuts. -/
theorem uncut_of_parse_text (h : parse record.text = record) (key : VersionKey) :
    Uncut (record.get key).toList := by
  intro c hc
  rw [← h] at hc
  obtain ⟨htext, hcuts⟩ := of_mem_get_parse hc
  exact ⟨isShown_of_mem_text htext, hcuts⟩

/-- Nor does any of its values hold a quote or a backslash: each of these would be read with one
more backslash than it has. -/
theorem not_mem_of_parse_text (h : parse record.text = record) (key : VersionKey) :
    '"' ∉ (record.get key).toList ∧ '\\' ∉ (record.get key).toList := by
  have huncut := uncut_of_parse_text h
  -- the value is what stands between the quotes, so both have as many backslashes
  have hvalue : (record.get key).toList =
      Text.trimWhile (· == '"') (Text.quoteBody (record.get key).toList) := by
    have hget := get_parse_text huncut key
    rw [h, valueOf_quoteChars] at hget
    exact (congrArg String.toList hget).trans String.toList_ofList
  have hcount : (record.get key).toList.count '\\' =
      (Text.quoteBody (record.get key).toList).count '\\' :=
    (congrArg (List.count '\\') hvalue).trans (Text.count_trimWhile (by decide) _)
  rw [Text.count_quoteBody fun c hc => (huncut key c hc).1] at hcount
  exact ⟨List.count_eq_zero.1 (by omega), List.count_eq_zero.1 (by omega)⟩

/-- A record is read back if its values are not cut apart and are written as they are. -/
theorem parse_text_of_isPlain (huncut : ∀ key, Uncut (record.get key).toList)
    (hplain : ∀ key, ∀ c ∈ (record.get key).toList, Text.isPlain c = true) :
    parse record.text = record := by
  refine ext_get fun key => ?_
  -- a quote is not written as it is, so none is trimmed from the value
  have hquote : '"' ∉ (record.get key).toList := fun hmem => absurd (hplain key _ hmem) (by decide)
  have htrim : Text.trimWhile (· == '"') (record.get key).toList = (record.get key).toList := by
    refine Text.trimWhile_eq_self ?_ ?_
    · intro c hc
      exact beq_false_of_ne fun h => hquote (h ▸ List.mem_of_mem_head? hc)
    · intro c hc
      exact beq_false_of_ne fun h => hquote (h ▸ List.mem_of_mem_getLast? hc)
  rw [get_parse_text huncut, valueOf_quoteChars,
    Text.quoteBody_of_forall_isPlain (hplain key), htrim, String.ofList_toList]

/-- A record is read back from its printed form exactly when its values hold no comma, no closing
brace, no quote, no backslash and no other character that is escaped. -/
theorem parse_text_eq_self_iff (record : VersionRecord) :
    parse record.text = record ↔
      ∀ key, ∀ c ∈ (record.get key).toList,
        c ≠ ',' ∧ c ≠ '\x7d' ∧ c ≠ '"' ∧ c ≠ '\\' ∧ Text.escape c = [c] := by
  constructor
  · intro hself key c hc
    obtain ⟨hshown, hcomma, hclose⟩ := uncut_of_parse_text hself key c hc
    obtain ⟨hquote, hback⟩ := not_mem_of_parse_text hself key
    have hcquote : c ≠ '"' := fun h => hquote (h ▸ hc)
    have hcback : c ≠ '\\' := fun h => hback (h ▸ hc)
    refine ⟨hcomma, hclose, hcquote, hcback, ?_⟩
    rw [Text.escape_of_isShown hshown, if_neg (by simp [hcquote, hcback])]
  · intro h
    have hplain : ∀ key, ∀ c ∈ (record.get key).toList, Text.isPlain c = true :=
      fun key c hc => Text.escape_eq_self_iff.1 (h key c hc).2.2.2.2
    refine parse_text_of_isPlain ?_ hplain
    intro key c hc
    have hshown := hplain key c hc
    rw [Text.isPlain, Bool.and_eq_true] at hshown
    exact ⟨hshown.2, (h key c hc).1, (h key c hc).2.1⟩

-- Blanks, colons, opening braces and single quotes are read back.
example :
    let record := { empty with gitVersion := " \x7bv1: 'edge' ", compiler := " " }
    parse record.text = record := by
  decide +kernel

-- The escape of a control character brings a closing brace, and with it the end of what is read.
example :
    parse { empty with gitVersion := "\x7f", compiler := "gc" }.text =
      { empty with gitVersion := "\\u\x7b7f" } := by
  decide +kernel

end FleetDashboard.VersionRecord
