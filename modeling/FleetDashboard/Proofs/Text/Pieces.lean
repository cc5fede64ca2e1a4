import Mathlib.Data.List.DropRight
import FleetDashboard.Text.Blank
import FleetDashboard.Text.Pieces

/-!
# Pieces of strings

A string that is split at a character is its pieces with that character between them, and pieces
that do not hold it are the ones that come out again. What is trimmed from the end of a string is
all there is of one character there, and trimming a text does not move the place where it is split.

* `intercalate_splitString`, `splitString_intercalate`: splitting and putting together.
* `repeated`, `trimEnd_eq_iff`: what is left of a string, and what is trimmed.
* `splitOnce_trimWhile`: a text may be trimmed before it is split or afterwards.
-/

namespace FleetDashboard.Text

variable {sep : Char} {pieces : List String} {s base : String}

/-! ## Splitting -/

/-- Joining puts the separator between neighbours. -/
theorem join_eq_intercalate (sep : Char) (pieces : List (List Char)) :
    join sep pieces = [sep].intercalate pieces := by
  induction pieces with
  | nil => rfl
  | cons piece rest ih =>
    cases rest with
    | nil => simp [join]
    | cons next rest => rw [join, ih, List.intercalate_cons_cons, List.append_assoc,
        List.singleton_append]

/-- The pieces of a string with the separator between them are the string. -/
theorem intercalate_splitString (sep : Char) (s : String) :
    (String.singleton sep).intercalate (splitString sep s) = s := by
  refine String.toList_injective ?_
  have hpieces : (splitString sep s).map String.toList = split sep s.toList := by
    simp [splitString, Function.comp_def]
  rw [String.toList_intercalate, hpieces, String.toList_singleton, ← join_eq_intercalate,
    join_split]

/-- Pieces without the separator come out again when they are split. -/
theorem splitString_intercalate (hne : pieces ≠ []) (h : ∀ piece ∈ pieces, sep ∉ piece.toList) :
    splitString sep ((String.singleton sep).intercalate pieces) = pieces := by
  have hsplit : split sep (join sep (pieces.map String.toList)) = pieces.map String.toList := by
    refine split_join (by simpa using hne) fun piece hpiece => ?_
    obtain ⟨own, hown, rfl⟩ := List.mem_map.1 hpiece
    exact h own hown
  rw [splitString, String.toList_intercalate, String.toList_singleton, ← join_eq_intercalate,
    hsplit]
  simp [Function.comp_def]

/-! ## Trimming -/

/-- A character so many times. -/
def repeated (c : Char) (count : Nat) : String :=
  String.ofList (List.replicate count c)

/-- What is left of a trimmed string does not end in the character, and nothing else is missing. -/
theorem trimEnd_eq_iff {c : Char} :
    trimEnd c s = base ↔ base.toList.getLast? ≠ some c ∧ ∃ count, s = base ++ repeated c count := by
  have htrim : (trimEnd c s).toList = s.toList.rdropWhile (· == c) := by
    rw [trimEnd, String.toList_ofList, List.rdropWhile]
  constructor
  · rintro rfl
    refine ⟨fun hlast => ?_, (s.toList.rtakeWhile (· == c)).length, ?_⟩
    · rw [htrim, List.getLast?_eq_some_iff] at hlast
      obtain ⟨before, hbefore⟩ := hlast
      have hne : s.toList.rdropWhile (· == c) ≠ [] := by simp [hbefore]
      have hnot := List.rdropWhile_last_not (· == c) s.toList hne
      simp [hbefore] at hnot
    · -- what is taken off consists of the character alone
      have hrepeated : s.toList.rtakeWhile (· == c) =
          List.replicate (s.toList.rtakeWhile (· == c)).length c :=
        List.eq_replicate_of_mem fun other hother => by simpa using List.mem_rtakeWhile_imp hother
      refine String.toList_injective ?_
      rw [String.toList_append, htrim, repeated, String.toList_ofList, ← hrepeated,
        List.rdropWhile_append_rtakeWhile]
  · rintro ⟨hlast, count, rfl⟩
    refine String.toList_injective ?_
    rw [htrim, String.toList_append, repeated, String.toList_ofList]
    clear htrim
    induction count with
    | zero =>
      rw [List.replicate_zero, List.append_nil, List.rdropWhile_eq_self_iff]
      intro hne heq
      rw [List.getLast?_eq_some_getLast hne, ne_eq, Option.some.injEq] at hlast
      exact hlast (beq_iff_eq.1 heq)
    | succ count ih =>
      rw [List.replicate_succ', ← List.append_assoc, List.rdropWhile_concat_pos _ _ _ (by simp), ih]

/-- More of the character at the end makes no difference to what is left. -/
theorem trimEnd_append_repeated (c : Char) (s : String) (count : Nat) :
    trimEnd c (s ++ repeated c count) = trimEnd c s := by
  obtain ⟨hlast, own, hown⟩ := trimEnd_eq_iff.1 (rfl : trimEnd c s = trimEnd c s)
  refine trimEnd_eq_iff.2 ⟨hlast, own + count, ?_⟩
  calc s ++ repeated c count
    _ = trimEnd c s ++ (repeated c own ++ repeated c count) := by
      rw [← String.append_assoc, ← hown]
    _ = trimEnd c s ++ repeated c (own + count) := by
      rw [repeated, repeated, repeated, ← String.ofList_append, List.replicate_append_replicate]

/-! ## Trimming around a separator -/

variable {drop : Char → Bool}

theorem splitOnce_eq_none_iff {cs : List Char} : splitOnce sep cs = none ↔ sep ∉ cs := by
  constructor
  · intro hnone hmem
    obtain ⟨before, after, hcs, hbefore⟩ := List.eq_append_cons_of_mem hmem
    rw [splitOnce_eq_some_iff.2 ⟨hcs, hbefore⟩] at hnone
    cases hnone
  · intro hmem
    cases hsplit : splitOnce sep cs with
    | none => rfl
    | some parts =>
      obtain ⟨rfl, -⟩ := splitOnce_eq_some_iff.1 hsplit
      exact absurd List.mem_append_cons_self hmem

/-- Nothing is dropped from a character on that is not of the class. -/
theorem dropWhile_append_cons (h : drop sep = false) (before after : List Char) :
    (before ++ sep :: after).dropWhile drop = before.dropWhile drop ++ sep :: after := by
  induction before with
  | nil => simp [h]
  | cons c rest ih =>
    cases hc : drop c with
    | true =>
      rw [List.cons_append, List.dropWhile_cons_of_pos hc, ih, List.dropWhile_cons_of_pos hc]
    | false => simp [hc]

/-- On either side of a character that is not of the class, a text is trimmed at its outer end. -/
theorem trimWhile_append_cons (h : drop sep = false) (before after : List Char) :
    trimWhile drop (before ++ sep :: after) =
      before.dropWhile drop ++ sep :: after.rdropWhile drop := by
  rw [trimWhile, dropWhile_append_cons h]
  simp [dropWhile_append_cons h, List.rdropWhile]

/-- Trimming in front first makes no difference. -/
theorem trimWhile_dropWhile (drop : Char → Bool) (cs : List Char) :
    trimWhile drop (cs.dropWhile drop) = trimWhile drop cs := by
  rw [trimWhile, List.dropWhile_idempotent, trimWhile]

/-- Nor does trimming behind. -/
theorem trimWhile_rdropWhile (drop : Char → Bool) (cs : List Char) :
    trimWhile drop (cs.rdropWhile drop) = trimWhile drop cs := by
  have hbehind : ∀ tail : List Char, (∀ c ∈ tail, drop c = true) → ∀ cs,
      trimWhile drop (cs ++ tail) = trimWhile drop cs := by
    intro tail
    induction tail with
    | nil => simp
    | cons c rest ih =>
      intro hall cs
      obtain ⟨hc, hrest⟩ := List.forall_mem_cons.1 hall
      rw [← List.singleton_append, ← List.append_assoc, ih hrest, trimWhile_append_singleton hc]
  have hcs : cs.rdropWhile drop ++ cs.rtakeWhile drop = cs := List.rdropWhile_append_rtakeWhile
  calc trimWhile drop (cs.rdropWhile drop)
    _ = trimWhile drop (cs.rdropWhile drop ++ cs.rtakeWhile drop) :=
      (hbehind _ (fun _ => List.mem_rtakeWhile_imp) _).symm
    _ = trimWhile drop cs := by rw [hcs]

/-- A trimmed text is split at the same separator, if separators are not of the class. -/
theorem splitOnce_trimWhile (h : drop sep = false) (cs : List Char) :
    splitOnce sep (trimWhile drop cs) =
      (splitOnce sep cs).map fun (before, after) =>
        (before.dropWhile drop, after.rdropWhile drop) := by
  cases hsplit : splitOnce sep cs with
  | none =>
    refine splitOnce_eq_none_iff.2 fun hmem => ?_
    exact splitOnce_eq_none_iff.1 hsplit (mem_of_mem_trimWhile hmem)
  | some parts =>
    obtain ⟨hcs, hbefore⟩ := splitOnce_eq_some_iff.1 hsplit
    refine splitOnce_eq_some_iff.2 ⟨?_, fun hmem => hbefore ?_⟩
    · rw [hcs, trimWhile_append_cons h]
    · exact (List.dropWhile_suffix drop).mem hmem

end FleetDashboard.Text
