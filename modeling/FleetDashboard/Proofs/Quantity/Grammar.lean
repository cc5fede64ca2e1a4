import Mathlib.Algebra.Group.Nat.Defs
import Mathlib.Data.List.Nodup
import Mathlib.Data.List.TakeWhile
import FleetDashboard.Quantity

/-!
# Which texts are quantities

Reading cuts a text behind its digits, points and signs, wherever among them the signs and points
stand, and only then looks at either part. What it accepts is nevertheless a plain grammar: a
decimal number, and right behind it nothing, a unit, or a power of ten.

* `Signed`, `IsMagnitude`, `IsNumber`, `IsInteger`, `IsSuffix`: the grammar, with the value of each
  text.
* `readNumber?_eq_some_iff`, `Suffix.exists_read?_iff`: either part is read by its rule.
* `parse?_eq_some_iff`: a text is read as the product of its two parts.
* `readsExactly`: it is read in no other case, and a lone `E` is a unit where a lone `e` is nothing.
-/

namespace FleetDashboard.Quantity

variable {cs rest digits number suffix : List Char} {negative : Bool} {n : Int}
  {x y factor : Double}

/-! ## The grammar -/

/-- A text with a sign in front of another one, or with none; the answer says whether the sign is a
minus. -/
inductive Signed (rest : List Char) : Bool → List Char → Prop
  | unsigned : Signed rest false rest
  | plus : Signed rest false ('+' :: rest)
  | minus : Signed rest true ('-' :: rest)

/-- Decimal digits, at least one, and at most one point in front of, among or behind them. -/
inductive IsMagnitude : List Char → Double → Prop
  | whole {digits : List Char} (hdigits : digits.all Json.isDigit) (hne : digits ≠ []) :
      IsMagnitude digits (.ofDecimal (Json.digitsValue digits) 0)
  | pointed {whole places : List Char} (hwhole : whole.all Json.isDigit)
      (hplaces : places.all Json.isDigit) (hne : whole ++ places ≠ []) :
      IsMagnitude (whole ++ '.' :: places)
        (.ofDecimal (Json.digitsValue (whole ++ places)) (-(places.length : Int)))

/-- A decimal number with an optional sign, and its value. -/
def IsNumber (cs : List Char) (x : Double) : Prop :=
  ∃ negative magnitude y, Signed magnitude negative cs ∧ IsMagnitude magnitude y ∧
    x = if negative then y.neg else y

/-- Decimal digits, at least one, with an optional sign, and the integer that they write. -/
def IsInteger (cs : List Char) (n : Int) : Prop :=
  ∃ negative digits, Signed digits negative cs ∧ digits.all Json.isDigit ∧ digits ≠ [] ∧
    n = if negative then -(Json.digitsValue digits : Int) else Json.digitsValue digits

/-- The decimal units, with the powers of ten that they stand for. -/
def decimalUnits : List (String × Int) :=
  [("n", -9), ("u", -6), ("m", -3), ("k", 3), ("M", 6), ("G", 9), ("T", 12), ("P", 15), ("E", 18)]

/-- The binary units; they stand for the powers of 1024, from the first one on. -/
def binaryUnits : List String :=
  ["Ki", "Mi", "Gi", "Ti", "Pi", "Ei"]

/-- What may stand behind the number, and the factor that it stands for. -/
inductive IsSuffix : List Char → Double → Prop
  | bare : IsSuffix [] one
  | decimal {name : String} {e : Int} (h : (name, e) ∈ decimalUnits) :
      IsSuffix name.toList (.ofDecimal 1 e)
  | binary {name : String} {i : Nat} (h : binaryUnits[i]? = some name) :
      IsSuffix name.toList (.ofDecimal (1024 ^ (i + 1)) 0)
  | power {lead : Char} {digits : List Char} {n : Int} (hlead : lead = 'e' ∨ lead = 'E')
      (hn : IsInteger digits n) (hlow : -2147483648 ≤ n) (hhigh : n < 2147483648) :
      IsSuffix (lead :: digits) (powerOfTen n)

/-! ## Signs -/

theorem signed_splitSign (cs : List Char) : Signed (splitSign cs).2 (splitSign cs).1 cs := by
  unfold splitSign
  split
  · exact .minus
  · exact .plus
  · exact .unsigned

/-- A sign is split off what has no further one in front. -/
theorem Signed.splitSign_eq (h : Signed rest negative cs)
    (hrest : ∀ c ∈ rest.head?, c ≠ '-' ∧ c ≠ '+') : splitSign cs = (negative, rest) := by
  cases h with
  | plus => rfl
  | minus => rfl
  | unsigned =>
    unfold splitSign
    split
    · exact absurd rfl (hrest '-' rfl).1
    · exact absurd rfl (hrest '+' rfl).2
    · rfl

theorem Signed.all_isNumberChar (h : Signed rest negative cs) (hrest : rest.all isNumberChar) :
    cs.all isNumberChar := by
  cases h with
  | unsigned => exact hrest
  | plus => exact List.all_cons.trans (Bool.and_eq_true_iff.2 ⟨by decide, hrest⟩)
  | minus => exact List.all_cons.trans (Bool.and_eq_true_iff.2 ⟨by decide, hrest⟩)

theorem Signed.mem_of_mem (h : Signed rest negative cs) {c : Char} (hc : c ∈ rest) : c ∈ cs := by
  cases h with
  | unsigned => exact hc
  | plus => exact List.mem_cons_of_mem _ hc
  | minus => exact List.mem_cons_of_mem _ hc

theorem ne_sign_of_isDigit {c : Char} (h : Json.isDigit c) : c ≠ '-' ∧ c ≠ '+' := by
  constructor
  · rintro rfl
    exact absurd h (by decide)
  · rintro rfl
    exact absurd h (by decide)

theorem ne_sign_of_mem_head? (h : digits.all Json.isDigit) :
    ∀ c ∈ digits.head?, c ≠ '-' ∧ c ≠ '+' :=
  fun c hc => ne_sign_of_isDigit (List.all_eq_true.1 h c (List.mem_of_mem_head? hc))

/-! ## Numbers -/

theorem readDecimal?_eq_some_iff : readDecimal? cs = some x ↔ IsMagnitude cs x := by
  constructor
  · intro h
    have hcut := List.takeWhile_append_dropWhile (p := Json.isDigit) (l := cs)
    have hwhole : (cs.takeWhile Json.isDigit).all Json.isDigit := List.all_takeWhile
    unfold readDecimal? at h
    generalize cs.takeWhile Json.isDigit = whole at h hcut hwhole
    dsimp only at h
    split at h
    case h_1 hbehind =>
      -- no character is left behind the digits
      rw [hbehind, List.append_nil] at hcut
      split at h
      · cases h
      case isFalse hne =>
        cases h
        exact hcut ▸ .whole hwhole (by simpa using hne)
    case h_2 places hbehind =>
      split at h
      case isTrue hplaces =>
        cases h
        simp only [Bool.and_eq_true, Bool.not_eq_true', Bool.and_eq_false_iff,
          List.isEmpty_eq_false_iff] at hplaces
        rw [← hcut, hbehind]
        exact .pointed hwhole hplaces.1 (by simpa [← not_and_or] using hplaces.2)
      · cases h
    · cases h
  · intro h
    unfold readDecimal?
    cases h with
    | whole hdigits hne =>
      have hall := List.all_eq_true.1 hdigits
      rw [List.takeWhile_eq_self_iff.2 hall, List.dropWhile_eq_nil_iff.2 hall]
      simp [hne]
    | @pointed whole places hwhole hplaces hne =>
      -- the point is the first character that is no digit
      have hall := List.all_eq_true.1 hwhole
      have hpoint : ¬ Json.isDigit '.' := by decide
      rw [List.takeWhile_append_of_pos hall, List.dropWhile_append_of_pos hall,
        List.takeWhile_cons_of_neg hpoint, List.dropWhile_cons_of_neg hpoint, List.append_nil]
      simpa [hplaces] using hne

theorem IsMagnitude.ne_sign (h : IsMagnitude cs x) : ∀ c ∈ cs.head?, c ≠ '-' ∧ c ≠ '+' := by
  cases h with
  | whole hdigits hne => exact ne_sign_of_mem_head? hdigits
  | @pointed whole places hwhole hplaces hne =>
    intro c hc
    cases whole with
    | nil =>
      cases hc
      decide
    | cons first rest => exact ne_sign_of_mem_head? hwhole c hc

theorem isNumberChar_of_isDigit {c : Char} (h : Json.isDigit c) : isNumberChar c := by
  simp [isNumberChar, h]

theorem IsMagnitude.all_isNumberChar (h : IsMagnitude cs x) : cs.all isNumberChar := by
  have hdigits : ∀ {digits : List Char}, digits.all Json.isDigit → digits.all isNumberChar := by
    intro digits h
    refine List.all_eq_true.2 fun c hc => ?_
    exact isNumberChar_of_isDigit (List.all_eq_true.1 h c hc)
  cases h with
  | whole hall hne => exact hdigits hall
  | pointed hwhole hplaces hne =>
    rw [List.all_append, List.all_cons, hdigits hwhole, hdigits hplaces]
    decide

theorem readNumber?_eq_some_iff : readNumber? cs = some x ↔ IsNumber cs x := by
  unfold readNumber?
  rw [Option.map_eq_some_iff]
  constructor
  · rintro ⟨y, hy, rfl⟩
    exact ⟨_, _, y, signed_splitSign cs, readDecimal?_eq_some_iff.1 hy, rfl⟩
  · rintro ⟨negative, magnitude, y, hsign, hmagnitude, rfl⟩
    rw [hsign.splitSign_eq hmagnitude.ne_sign]
    exact ⟨y, readDecimal?_eq_some_iff.2 hmagnitude, rfl⟩

theorem IsNumber.all_isNumberChar (h : IsNumber cs x) : cs.all isNumberChar := by
  obtain ⟨negative, magnitude, y, hsign, hmagnitude, -⟩ := h
  exact hsign.all_isNumberChar hmagnitude.all_isNumberChar

theorem readInt32?_eq_some_iff :
    readInt32? cs = some n ↔ IsInteger cs n ∧ -2147483648 ≤ n ∧ n < 2147483648 := by
  -- both sides are about the digits behind the sign that is split off
  have hinteger : IsInteger cs n ↔
      (splitSign cs).2.all Json.isDigit ∧ (splitSign cs).2 ≠ [] ∧
        n = if (splitSign cs).1 then -(Json.digitsValue (splitSign cs).2 : Int)
          else Json.digitsValue (splitSign cs).2 := by
    constructor
    · rintro ⟨negative, digits, hsign, hdigits, hne, rfl⟩
      rw [hsign.splitSign_eq (ne_sign_of_mem_head? hdigits)]
      exact ⟨hdigits, hne, rfl⟩
    · rintro ⟨hdigits, hne, hn⟩
      exact ⟨_, _, signed_splitSign cs, hdigits, hne, hn⟩
  rw [hinteger, readInt32?]
  simp only
  generalize (splitSign cs).1 = negative, (splitSign cs).2 = digits
  split
  case isTrue hbad =>
    rw [Bool.or_eq_true, List.isEmpty_iff, Bool.not_eq_true'] at hbad
    constructor
    · nofun
    · rintro ⟨⟨hdigits, hne, -⟩, -⟩
      rcases hbad with hnone | hsome
      · exact absurd hnone hne
      · exact absurd hdigits (by simp [hsome])
  case isFalse hgood =>
    rw [Bool.or_eq_true, List.isEmpty_iff, Bool.not_eq_true', not_or, Bool.not_eq_false] at hgood
    generalize (if negative then -(Json.digitsValue digits : Int) else Json.digitsValue digits) = m
    simp only [Bool.and_eq_true, decide_eq_true_eq]
    constructor
    · intro h
      split at h
      case isTrue hfits =>
        cases h
        exact ⟨⟨hgood.2, hgood.1, rfl⟩, hfits⟩
      case isFalse => cases h
    · rintro ⟨⟨-, -, rfl⟩, hfits⟩
      rw [if_pos hfits]

/-! ## Units -/

theorem units_eq :
    units = (decimalUnits.map fun u => (u.1, .ofDecimal 1 u.2)) ++
      binaryUnits.mapIdx fun i name => (name, .ofDecimal (1024 ^ (i + 1)) 0) := rfl

theorem mem_units_of_decimal {name : String} {e : Int} (h : (name, e) ∈ decimalUnits) :
    (name, .ofDecimal 1 e) ∈ units := by
  rw [units_eq]
  exact List.mem_append_left _ (List.mem_map_of_mem h)

theorem mem_units_of_binary {name : String} {i : Nat} (h : binaryUnits[i]? = some name) :
    (name, .ofDecimal (1024 ^ (i + 1)) 0) ∈ units := by
  obtain ⟨hi, rfl⟩ := List.getElem?_eq_some_iff.1 h
  rw [units_eq]
  exact List.mem_append_right _ (List.mem_mapIdx.2 ⟨i, hi, rfl⟩)

theorem IsSuffix.of_mem_units {u : String × Double} (hu : u ∈ units) :
    IsSuffix u.1.toList u.2 := by
  rw [units_eq, List.mem_append, List.mem_map, List.mem_mapIdx] at hu
  rcases hu with ⟨v, hv, rfl⟩ | ⟨i, hi, rfl⟩
  · exact .decimal hv
  · exact .binary (List.getElem?_eq_getElem hi)

/-- The name of a unit holds nothing that a number is made of. -/
theorem isNumberChar_of_mem_units {u : String × Double} (hu : u ∈ units) {c : Char}
    (hc : c ∈ u.1.toList) : isNumberChar c = false := by
  have hnames : (units.map (·.1)).all fun name => name.toList.all (!isNumberChar ·) := by decide
  have hname := List.all_eq_true.1 hnames u.1 (List.mem_map_of_mem hu)
  simpa using List.all_eq_true.1 hname c hc

/-- The names of two units differ, so each unit is found by its name. -/
theorem find?_units {u : String × Double} (hu : u ∈ units) :
    (units.find? fun v => v.1.toList == u.1.toList) = some u := by
  have hnames : (units.map (·.1)).Nodup := by decide
  obtain ⟨before, behind, hsplit⟩ := List.append_of_mem hu
  refine List.find?_eq_some_iff_append.2 ⟨beq_self_eq_true _, before, behind, hsplit, ?_⟩
  intro v hv
  rw [hsplit, List.map_append, List.nodup_append] at hnames
  have hne : v.1 ≠ u.1 :=
    hnames.2.2 v.1 (List.mem_map_of_mem hv) u.1 (List.mem_map_of_mem List.mem_cons_self)
  simpa [String.toList_inj] using hne

theorem IsInteger.exists_digit (h : IsInteger cs n) : ∃ c ∈ cs, Json.isDigit c := by
  obtain ⟨negative, digits, hsign, hdigits, hne, -⟩ := h
  obtain ⟨c, hc⟩ := List.exists_mem_of_ne_nil digits hne
  exact ⟨c, hsign.mem_of_mem hc, List.all_eq_true.1 hdigits c hc⟩

/-- What holds a digit is no name of a unit. -/
theorem find?_units_of_isInteger {lead : Char} (h : IsInteger digits n) :
    (units.find? fun u => u.1.toList == lead :: digits) = none := by
  obtain ⟨c, hc, hdigit⟩ := h.exists_digit
  refine List.find?_eq_none.2 fun u hu hname => ?_
  have hmem : c ∈ u.1.toList := beq_iff_eq.1 hname ▸ List.mem_cons_of_mem _ hc
  have hnot := isNumberChar_of_mem_units hu hmem
  rw [isNumberChar_of_isDigit hdigit] at hnot
  cases hnot

/-- A unit is read as one. -/
theorem Suffix.read?_of_mem_units {u : String × Double} (hu : u ∈ units) :
    Suffix.read? u.1.toList = some (.unit u.2) := by
  have hnames : ∀ name ∈ units.map (·.1), name.toList.isEmpty = false := by decide
  unfold Suffix.read?
  rw [hnames u.1 (List.mem_map_of_mem hu), find?_units hu]
  rfl

/-! ## Suffixes -/

/-- A suffix is read by its rule. -/
theorem Suffix.exists_read?_iff :
    (∃ s, Suffix.read? cs = some s ∧ s.factor = factor) ↔ IsSuffix cs factor := by
  constructor
  · rintro ⟨s, hs, rfl⟩
    unfold Suffix.read? at hs
    split at hs
    case isTrue hempty =>
      cases hs
      rw [List.isEmpty_iff.1 hempty]
      exact .bare
    case isFalse hne =>
      split at hs
      case h_1 u hfound =>
        cases hs
        have hname : u.1.toList = cs := by simpa using List.find?_some hfound
        rw [← hname]
        exact .of_mem_units (List.mem_of_find?_eq_some hfound)
      case h_2 =>
        -- either letter is followed by the same thing
        have hpower : ∀ {lead : Char} {digits : List Char}, lead = 'e' ∨ lead = 'E' →
            (readInt32? digits).map Suffix.power = some s → IsSuffix (lead :: digits) s.factor := by
          intro lead digits hlead hread
          obtain ⟨n, hn, rfl⟩ := Option.map_eq_some_iff.1 hread
          obtain ⟨hinteger, hlow, hhigh⟩ := readInt32?_eq_some_iff.1 hn
          exact .power hlead hinteger hlow hhigh
        split at hs
        · exact hpower (Or.inl rfl) hs
        · exact hpower (Or.inr rfl) hs
        · cases hs
  · intro h
    cases h with
    | bare => exact ⟨.bare, rfl, rfl⟩
    | decimal hunit =>
      exact ⟨_, read?_of_mem_units (mem_units_of_decimal hunit), rfl⟩
    | binary hunit =>
      exact ⟨_, read?_of_mem_units (mem_units_of_binary hunit), rfl⟩
    | @power lead digits n hlead hn hlow hhigh =>
      have hread : (readInt32? digits).map Suffix.power = some (.power n) := by
        rw [readInt32?_eq_some_iff.2 ⟨hn, hlow, hhigh⟩]
        rfl
      refine ⟨.power n, ?_, rfl⟩
      unfold Suffix.read?
      rw [find?_units_of_isInteger hn]
      rcases hlead with rfl | rfl
      · exact hread
      · exact hread

/-- No suffix has a character in front that a number is made of. -/
theorem IsSuffix.head_not_isNumberChar (h : IsSuffix suffix factor) :
    ∀ c ∈ suffix.head?, isNumberChar c = false := by
  have hunits : ∀ u ∈ units, ∀ c ∈ u.1.toList.head?, isNumberChar c = false :=
    fun u hu c hc => isNumberChar_of_mem_units hu (List.mem_of_mem_head? hc)
  cases h with
  | bare => nofun
  | decimal hunit => exact hunits _ (mem_units_of_decimal hunit)
  | binary hunit => exact hunits _ (mem_units_of_binary hunit)
  | power hlead hn hlow hhigh =>
    rintro c ⟨rfl⟩
    rcases hlead with rfl | rfl <;> decide

/-! ## Quantities -/

/-- A text can be cut into a number and a suffix at one place only, which is where reading cuts. -/
theorem cut_append (hnumber : number.all isNumberChar)
    (hsuffix : ∀ c ∈ suffix.head?, isNumberChar c = false) :
    (number ++ suffix).takeWhile isNumberChar = number ∧
      (number ++ suffix).dropWhile isNumberChar = suffix := by
  have hall := List.all_eq_true.1 hnumber
  rw [List.takeWhile_append_of_pos hall, List.dropWhile_append_of_pos hall]
  cases suffix with
  | nil => exact ⟨List.append_nil _, rfl⟩
  | cons c rest =>
    have hc : ¬ isNumberChar c := by simp [hsuffix c rfl]
    rw [List.takeWhile_cons_of_neg hc, List.dropWhile_cons_of_neg hc, List.append_nil]
    exact ⟨rfl, rfl⟩

/-- A text is read as the product of its two parts. -/
theorem parse?_eq_some_iff {raw : String} :
    parse? raw = some x ↔ ∃ number suffix y factor, Text.trim raw.toList = number ++ suffix ∧
      IsNumber number y ∧ IsSuffix suffix factor ∧ x = y * factor := by
  unfold parse?
  simp only [Option.bind_eq_bind, Option.bind_eq_some_iff, Option.pure_def, Option.some.injEq]
  constructor
  · rintro ⟨y, hy, s, hs, rfl⟩
    exact ⟨_, _, y, s.factor, List.takeWhile_append_dropWhile.symm,
      readNumber?_eq_some_iff.1 hy, Suffix.exists_read?_iff.1 ⟨s, hs, rfl⟩, rfl⟩
  · rintro ⟨number, suffix, y, factor, hraw, hnumber, hsuffix, rfl⟩
    obtain ⟨hbefore, hbehind⟩ := cut_append hnumber.all_isNumberChar hsuffix.head_not_isNumberChar
    obtain ⟨s, hs, rfl⟩ := Suffix.exists_read?_iff.2 hsuffix
    rw [hraw, hbefore, hbehind]
    exact ⟨y, readNumber?_eq_some_iff.2 hnumber, s, hs, rfl⟩

/-- A lone `e` is no suffix. -/
theorem not_isSuffix_lone : ¬ IsSuffix ['e'] factor := by
  have hnames : ∀ name ∈ units.map (·.1), name.toList ≠ ['e'] := by decide
  intro h
  generalize htext : ['e'] = suffix at h
  cases h with
  | bare => cases htext
  | decimal hunit =>
    exact hnames _ (List.mem_map_of_mem (mem_units_of_decimal hunit)) htext.symm
  | binary hunit =>
    exact hnames _ (List.mem_map_of_mem (mem_units_of_binary hunit)) htext.symm
  | power hlead hn hlow hhigh =>
    -- no digit follows it
    cases htext
    obtain ⟨c, hc, -⟩ := hn.exists_digit
    cases hc

/-- Exactly the quantities are read, each as what it stands for. -/
structure ReadsExactly (raw : String) : Prop where
  /-- A value is read exactly if the text, without the blanks around it, is a number with a suffix
  right behind it. -/
  isSome_iff : (parse? raw).isSome ↔ ∃ number suffix x factor,
    Text.trim raw.toList = number ++ suffix ∧ IsNumber number x ∧ IsSuffix suffix factor
  /-- The value is that of the number times the factor of the suffix. -/
  value : ∀ number suffix x factor, Text.trim raw.toList = number ++ suffix → IsNumber number x →
    IsSuffix suffix factor → parse? raw = some (x * factor)
  /-- A number with nothing but an `E` behind it is so many times 10 ^ 18. -/
  capital : ∀ number x, Text.trim raw.toList = number ++ ['E'] → IsNumber number x →
    parse? raw = some (x * .ofDecimal 1 18)
  /-- A number with nothing but an `e` behind it has no value. -/
  small : ∀ number x, Text.trim raw.toList = number ++ ['e'] → IsNumber number x →
    parse? raw = none

/-- Whatever stands around, among and behind its digits, a text is read exactly if it is a
quantity. -/
theorem readsExactly (raw : String) : ReadsExactly raw where
  isSome_iff := by
    rw [Option.isSome_iff_exists]
    constructor
    · rintro ⟨value, hvalue⟩
      obtain ⟨number, suffix, x, factor, hraw, hnumber, hsuffix, -⟩ := parse?_eq_some_iff.1 hvalue
      exact ⟨number, suffix, x, factor, hraw, hnumber, hsuffix⟩
    · rintro ⟨number, suffix, x, factor, hraw, hnumber, hsuffix⟩
      exact ⟨_, parse?_eq_some_iff.2 ⟨number, suffix, x, factor, hraw, hnumber, hsuffix, rfl⟩⟩
  value number suffix x factor hraw hnumber hsuffix :=
    parse?_eq_some_iff.2 ⟨number, suffix, x, factor, hraw, hnumber, hsuffix, rfl⟩
  capital number x hraw hnumber := by
    have hunit : IsSuffix "E".toList (.ofDecimal 1 18) := .decimal (by decide)
    exact parse?_eq_some_iff.2 ⟨number, _, x, _, hraw, hnumber, hunit, rfl⟩
  small number x hraw hnumber := by
    refine Option.eq_none_iff_forall_ne_some.2 fun value hvalue => ?_
    obtain ⟨number', suffix, x', factor, hraw', hnumber', hsuffix, -⟩ :=
      parse?_eq_some_iff.1 hvalue
    -- whatever number is read, the text is cut at the same place
    have hsmall : ∀ c ∈ ['e'].head?, isNumberChar c = false := by
      rintro c ⟨rfl⟩
      decide
    have hcut := (cut_append hnumber.all_isNumberChar hsmall).2
    have hcut' := (cut_append hnumber'.all_isNumberChar hsuffix.head_not_isNumberChar).2
    rw [← hraw', hraw, hcut] at hcut'
    exact not_isSuffix_lone (hcut' ▸ hsuffix)

example : (parse? " -.5E+3 ").isSome ∧ (parse? "5E").isSome ∧ (parse? "5e").isNone ∧
    (parse? "5-3").isNone ∧ (parse? "1e2147483648").isNone := by
  decide

end FleetDashboard.Quantity
