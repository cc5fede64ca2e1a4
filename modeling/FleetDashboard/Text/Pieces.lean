/-!
# Pieces of a text

Cutting a text at a separator, joining pieces again, and looking for one text inside another.
The work is done on lists of characters; the functions on `String` are thin wrappers.

Main statements: joining the pieces gives the text back (`join_split`) and splitting them again the
pieces (`split_join`), a text without the separator is one piece (`split_of_not_mem`), and
`occursIn` decides contiguous occurrence (`occursIn_iff`).
-/

namespace FleetDashboard.Text

/-! ## Splitting at every separator -/

/-- The pieces between the occurrences of `sep`, one more than there are occurrences. -/
def split (sep : Char) : List Char → List (List Char)
  | [] => [[]]
  | c :: cs =>
    if c = sep then [] :: split sep cs
    else
      match split sep cs with
      | [] => [[c]]
      | piece :: rest => (c :: piece) :: rest

/-- The pieces with one `sep` between neighbours. -/
def join (sep : Char) : List (List Char) → List Char
  | [] => []
  | [piece] => piece
  | piece :: next :: rest => piece ++ sep :: join sep (next :: rest)

/-- There is always at least one piece. -/
theorem split_ne_nil (sep : Char) (cs : List Char) : split sep cs ≠ [] := by
  cases cs with
  | nil => simp [split]
  | cons c cs =>
    unfold split
    split
    · simp
    · split <;> simp

/-- Joining undoes splitting. -/
@[simp]
theorem join_split (sep : Char) (cs : List Char) : join sep (split sep cs) = cs := by
  induction cs with
  | nil => rfl
  | cons c cs ih =>
    rw [split]
    cases h : split sep cs with
    | nil => exact absurd h (split_ne_nil sep cs)
    | cons piece rest =>
      rw [h] at ih
      by_cases hc : c = sep
      · simp [hc, join, ih]
      · cases rest with
        | nil => simpa [hc, join] using ih
        | cons next rest => simpa [hc, join] using ih

/-- A text without the separator is its own only piece. -/
theorem split_of_not_mem {sep : Char} {cs : List Char} (h : sep ∉ cs) : split sep cs = [cs] := by
  induction cs with
  | nil => rfl
  | cons c cs ih =>
    simp only [List.mem_cons, not_or] at h
    have hc : ¬ c = sep := fun e => h.1 e.symm
    simp [split, hc, ih h.2]

/-- No piece holds the separator. -/
theorem not_mem_of_mem_split {sep : Char} {cs piece : List Char} (h : piece ∈ split sep cs) :
    sep ∉ piece := by
  induction cs generalizing piece with
  | nil => simp [split] at h; simp [h]
  | cons c cs ih =>
    rw [split] at h
    by_cases hc : c = sep
    · simp only [hc, ↓reduceIte, List.mem_cons] at h
      rcases h with rfl | h
      · simp
      · exact ih h
    · simp only [hc, ↓reduceIte] at h
      cases hs : split sep cs with
      | nil => exact absurd hs (split_ne_nil sep cs)
      | cons first rest =>
        simp only [hs, List.mem_cons] at h
        rcases h with rfl | h
        · have : sep ∉ first := ih (by simp [hs])
          simp [this, Ne.symm hc]
        · exact ih (by simp [hs, h])

/-- What stands in a piece stands in the text. -/
theorem mem_of_mem_split {sep : Char} {cs piece : List Char} {c : Char} (h : piece ∈ split sep cs)
    (hc : c ∈ piece) : c ∈ cs := by
  induction cs generalizing piece with
  | nil =>
    rw [split, List.mem_singleton] at h
    exact h ▸ hc
  | cons d cs ih =>
    rw [split] at h
    by_cases hd : d = sep
    · simp only [hd, ↓reduceIte, List.mem_cons] at h
      rcases h with rfl | h
      · cases hc
      · exact List.mem_cons_of_mem _ (ih h hc)
    · simp only [hd, ↓reduceIte] at h
      cases hs : split sep cs with
      | nil => exact absurd hs (split_ne_nil sep cs)
      | cons first rest =>
        simp only [hs, List.mem_cons] at h
        rcases h with rfl | h
        · rcases List.mem_cons.1 hc with rfl | hc
          · exact List.mem_cons_self
          · exact List.mem_cons_of_mem _ (ih (by simp [hs]) hc)
        · exact List.mem_cons_of_mem _ (ih (by simp [hs, h]) hc)

/-- The text up to the first separator is the first piece. -/
theorem split_append_cons {sep : Char} {piece : List Char} (h : sep ∉ piece) (rest : List Char) :
    split sep (piece ++ sep :: rest) = piece :: split sep rest := by
  induction piece with
  | nil => simp [split]
  | cons c cs ih =>
    simp only [List.mem_cons, not_or] at h
    have hc : ¬ c = sep := fun e => h.1 e.symm
    simp [split, hc, ih h.2]

/-- What stands in joined pieces is the separator or stands in one of them. -/
theorem mem_join {sep c : Char} {pieces : List (List Char)} (h : c ∈ join sep pieces) :
    c = sep ∨ ∃ piece ∈ pieces, c ∈ piece := by
  induction pieces with
  | nil => cases h
  | cons piece rest ih =>
    cases rest with
    | nil => exact Or.inr ⟨piece, List.mem_singleton_self _, h⟩
    | cons next rest =>
      rcases List.mem_append.1 h with hpiece | hbehind
      · exact Or.inr ⟨piece, List.mem_cons_self, hpiece⟩
      · rcases List.mem_cons.1 hbehind with hsep | hrest
        · exact Or.inl hsep
        · rcases ih hrest with hsep | ⟨other, hother, hc⟩
          · exact Or.inl hsep
          · exact Or.inr ⟨other, List.mem_cons_of_mem _ hother, hc⟩

/-- Splitting undoes joining, if there is a piece and none holds the separator. -/
theorem split_join {sep : Char} {pieces : List (List Char)} (hne : pieces ≠ [])
    (h : ∀ piece ∈ pieces, sep ∉ piece) : split sep (join sep pieces) = pieces := by
  induction pieces with
  | nil => exact absurd rfl hne
  | cons piece rest ih =>
    obtain ⟨hpiece, hrest⟩ := List.forall_mem_cons.1 h
    cases rest with
    | nil => exact split_of_not_mem hpiece
    | cons next rest => rw [join, split_append_cons hpiece, ih (by simp) hrest]

/-! ## Splitting at the first separator -/

/-- What stands before and after the first `sep`, if there is one. -/
def splitOnce (sep : Char) : List Char → Option (List Char × List Char)
  | [] => none
  | c :: cs =>
    if c = sep then some ([], cs)
    else (splitOnce sep cs).map fun (before, after) => (c :: before, after)

/-- The two parts are what stands around the first separator. -/
theorem splitOnce_eq_some_iff {sep : Char} {cs before after : List Char} :
    splitOnce sep cs = some (before, after) ↔ cs = before ++ sep :: after ∧ sep ∉ before := by
  induction cs generalizing before with
  | nil => simp [splitOnce]
  | cons c cs ih =>
    by_cases hc : c = sep
    · subst hc
      cases before with
      | nil => simp [splitOnce, eq_comm]
      | cons b bs => simp only [splitOnce, ↓reduceIte, Option.some.injEq, Prod.mk.injEq]; grind
    · cases before with
      | nil => simp [splitOnce, hc]
      | cons b bs => simp only [splitOnce, hc, ↓reduceIte, Option.map_eq_some_iff]; grind

/-! ## Contiguous occurrence -/

/-- Whether `term` occurs in the text as one contiguous run. -/
def occursIn (term : List Char) : List Char → Bool
  | [] => term.isEmpty
  | c :: cs => term.isPrefixOf (c :: cs) || occursIn term cs

/-- `occursIn` decides being an infix. -/
theorem occursIn_iff {term cs : List Char} : occursIn term cs = true ↔ term <:+: cs := by
  induction cs with
  | nil => simp [occursIn]
  | cons c cs ih => simp [occursIn, ih, List.infix_cons_iff]

/-! ## Leading text -/

/-- What is left of a text behind its leading part `lead`, if it starts with it. -/
def strip? : List Char → List Char → Option (List Char)
  | [], cs => some cs
  | _ :: _, [] => none
  | l :: ls, c :: cs => if l = c then strip? ls cs else none

/-- The leading part and what is left make up the text. -/
theorem strip?_eq_some_iff {lead cs rest : List Char} :
    strip? lead cs = some rest ↔ cs = lead ++ rest := by
  induction lead generalizing cs with
  | nil => simp [strip?]
  | cons l ls ih =>
    cases cs with
    | nil => simp [strip?]
    | cons c cs =>
      by_cases h : l = c
      · simp [strip?, h, ih]
      · simp [strip?, h, Ne.symm h]

/-! ## The same on strings -/

/-- The pieces of a string between the occurrences of `sep`. -/
def splitString (sep : Char) (s : String) : List String :=
  (split sep s.toList).map String.ofList

/-- What is left of a string behind the leading text `lead`, if it starts with it. -/
def stripLead? (lead s : String) : Option String :=
  (strip? lead.toList s.toList).map String.ofList

/-- A leading text and what is left behind it make up the whole. -/
theorem stripLead?_eq_some_iff {lead s rest : String} :
    stripLead? lead s = some rest ↔ s = lead ++ rest := by
  simp only [stripLead?, Option.map_eq_some_iff, strip?_eq_some_iff]
  constructor
  · rintro ⟨cs, h, rfl⟩
    exact String.toList_inj.1 (by simp [h])
  · rintro rfl
    exact ⟨rest.toList, by simp⟩

/-- The string without its trailing `c`s. -/
def trimEnd (c : Char) (s : String) : String :=
  String.ofList (s.toList.reverse.dropWhile (· == c)).reverse

/-- Code-point order of strings, character by character. -/
def compare (a b : String) : Ordering :=
  List.compareLex Ord.compare a.toList b.toList

/-- A piece of text as it is with its ASCII capitals made small. -/
def asciiLower (s : String) : String :=
  String.ofList (s.toList.map Char.toLower)

end FleetDashboard.Text
