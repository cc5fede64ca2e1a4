import FleetDashboard.Text.Hidden

/-!
# Quoted text

The form in which messages show a text that a caller supplied: in double quotes, with the quote,
the backslash, line ends, tabs and NUL written by a backslash escape and every other character
that does not show by its code point in braces.

Main statement: a text in which no character needs an escape is written as it is
(`quoteBody_of_forall_isPlain`).
-/

namespace FleetDashboard.Text

/-- The two-character escape of a character that has one. -/
def shortEscape? (c : Char) : Option Char :=
  if c = '\x00' then some '0'
  else if c = '\t' then some 't'
  else if c = '\r' then some 'r'
  else if c = '\n' then some 'n'
  else if c = '"' then some '"'
  else if c = '\\' then some '\\'
  else none

/-- Whether a character is shown as it is: a visible ASCII character or blank, or a character
beyond ASCII that is not hidden. -/
def isShown (c : Char) : Bool :=
  let n := c.toNat
  if n < 0x80 then 0x20 ≤ n && n < 0x7F else !isHidden c

/-- The code point escape, hexadecimal in braces. -/
def codeEscape (c : Char) : List Char :=
  ['\\', 'u', '\x7b'] ++ Nat.toDigits 16 c.toNat ++ ['\x7d']

/-- How one character stands in quoted text. -/
def escape (c : Char) : List Char :=
  match shortEscape? c with
  | some e => ['\\', e]
  | none => if isShown c then [c] else codeEscape c

/-- Whether a character stands for itself in quoted text. -/
def isPlain (c : Char) : Bool :=
  (shortEscape? c).isNone && isShown c

/-- A plain character is not escaped. -/
theorem escape_of_isPlain {c : Char} (h : isPlain c = true) : escape c = [c] := by
  simp only [isPlain, Bool.and_eq_true, Option.isNone_iff_eq_none] at h
  simp [escape, h.1, h.2]

/-- Every escape starts with a backslash. -/
theorem exists_escape_of_not_isPlain {c : Char} (h : isPlain c = false) :
    ∃ rest, escape c = '\\' :: rest := by
  simp only [isPlain, Bool.and_eq_false_iff] at h
  unfold escape
  cases hs : shortEscape? c with
  | some e => exact ⟨[e], rfl⟩
  | none =>
    rw [hs] at h
    simp only [Option.isNone_none, Bool.true_eq_false, false_or] at h
    simp [h, codeEscape]

/-- The characters between the quotes. -/
def quoteBody (cs : List Char) : List Char :=
  cs.flatMap escape

/-- A text in quotes. -/
def quoteChars (cs : List Char) : List Char :=
  '"' :: quoteBody cs ++ ['"']

/-- A string in quotes. -/
def quote (s : String) : String :=
  String.ofList (quoteChars s.toList)

/-- Plain text is quoted without change. -/
theorem quoteBody_of_forall_isPlain {cs : List Char} (h : ∀ c ∈ cs, isPlain c = true) :
    quoteBody cs = cs := by
  induction cs with
  | nil => rfl
  | cons c cs ih =>
    have hc := escape_of_isPlain (h c (by simp))
    have := ih fun d hd => h d (by simp [hd])
    simp_all [quoteBody]

end FleetDashboard.Text
