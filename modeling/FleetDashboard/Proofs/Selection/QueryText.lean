import Mathlib.Algebra.Ring.Parity
import Mathlib.Data.List.Basic
import FleetDashboard.Proofs.Outcome
import FleetDashboard.Selection.Query

/-!
# The text of a query

A query is read from two parameters, each a row of pairs written with commas. It is read if and only
if the pieces make pairs and the directions are `a` or `d`; what was read can be written again, and
is then read as the same query. Behind this stands that the text of a property can always be had
back, so that different texts never name the same property.

* `piecesOf`, `unpair`: the pieces of a parameter, and those of pairs.
* `Query.WellFormed`, `Query.Means`: which parameters are read, and as which query.
* `Query.Writable`: the query can be written; `parse_text` reads what is written.
* `reads_exactly`: all of it together.
-/

namespace FleetDashboard

namespace Selection

/-! ## Properties -/

namespace Property

theorem parse_injective : Function.Injective parse := fun s t h => by
  rw [← text_parse s, h, text_parse]

theorem parse_label (key : String) : parse (labelLead ++ key) = .label key := by
  have hlead : Text.stripLead? labelLead (labelLead ++ key) = some key :=
    Text.stripLead?_eq_some_iff.2 rfl
  -- none of the fixed words starts like a label
  have hne : ∀ word, Text.stripLead? labelLead word = none → labelLead ++ key ≠ word := by
    rintro word hword rfl
    rw [hlead] at hword
    cases hword
  unfold parse
  rw [if_neg (hne _ (by decide)), if_neg (hne _ (by decide)), if_neg (hne _ (by decide)),
    if_neg (hne _ (by decide)), if_neg (hne _ (by decide)), if_neg (hne _ (by decide)),
    if_neg (hne _ (by decide)), if_neg (hne _ (by decide)), hlead]

/-- A fixed word or a label is named by its own text and by no other. -/
theorem parse_eq_iff {s : String} {property : Property} (h : ∀ name, property ≠ .other name) :
    parse s = property ↔ s = property.text := by
  constructor
  · rintro rfl
    exact (text_parse s).symm
  · rintro rfl
    cases property with
    | label key => exact parse_label key
    | other name => exact absurd rfl (h name)
    | _ => decide

end Property

/-! ## Pieces and pairs -/

/-- The pieces of a parameter between its commas; an empty one has none. -/
def piecesOf (raw : String) : List String :=
  if raw = "" then [] else Text.splitString ',' raw

/-- The pieces of pairs, in a row. -/
def unpair {α : Type} (pairs : List (α × α)) : List α :=
  pairs.flatMap fun pair => [pair.1, pair.2]

section Pairs

variable {α : Type} {items : List α} {ps : List (α × α)}

theorem pairUp_eq_some_iff : pairUp items = some ps ↔ items = unpair ps := by
  -- two pieces at a time, as the pairs are made
  induction items using pairUp.induct generalizing ps with
  | case1 => cases ps <;> simp [pairUp, unpair]
  | case2 => cases ps <;> simp [pairUp, unpair]
  | case3 a b rest ih =>
    cases ps with
    | nil => simp [pairUp, unpair]
    | cons p ps =>
      simp only [pairUp, Option.map_eq_some_iff, ih, List.cons.injEq, unpair, List.flatMap_cons,
        List.cons_append, List.nil_append]
      constructor
      · rintro ⟨tail, rfl, rfl, rfl⟩
        exact ⟨rfl, rfl, rfl⟩
      · rintro ⟨rfl, rfl, rfl⟩
        exact ⟨ps, rfl, rfl, rfl⟩

theorem length_unpair (ps : List (α × α)) : (unpair ps).length = 2 * ps.length := by
  induction ps with
  | nil => rfl
  | cons p ps ih =>
    rw [unpair, List.flatMap_cons, List.length_append, ← unpair, ih, List.length_cons]
    simp only [List.length_cons, List.length_nil]
    omega

theorem even_length_iff : Even items.length ↔ ∃ ps, items = unpair ps := by
  constructor
  · intro heven
    induction items using pairUp.induct with
    | case1 => exact ⟨[], rfl⟩
    | case2 => simp at heven
    | case3 a b rest ih =>
      obtain ⟨ps, rfl⟩ := ih (by simpa [Nat.even_add_one] using heven)
      exact ⟨(a, b) :: ps, rfl⟩
  · rintro ⟨ps, rfl⟩
    rw [length_unpair]
    exact even_two_mul _

theorem getElem?_unpair (ps : List (α × α)) (i : Nat) :
    (unpair ps)[2 * i]? = ps[i]?.map (·.1) := by
  induction ps generalizing i with
  | nil => simp [unpair]
  | cons p ps ih =>
    cases i with
    | zero => rfl
    | succ i => exact ih i

/-- The pieces at even places are the first parts of the pairs. -/
theorem forall_getElem?_unpair {good : α → Prop} :
    (∀ i piece, (unpair ps)[2 * i]? = some piece → good piece) ↔ ∀ p ∈ ps, good p.1 := by
  simp only [getElem?_unpair, Option.map_eq_some_iff]
  constructor
  · intro h p hp
    obtain ⟨i, hi⟩ := List.mem_iff_getElem?.1 hp
    exact h i p.1 ⟨p, hi, rfl⟩
  · rintro h i _ ⟨p, hp, rfl⟩
    exact h p (List.mem_of_getElem? hp)

theorem mem_unpair {ps : List (α × α)} {p : α × α} (h : p ∈ ps) :
    p.1 ∈ unpair ps ∧ p.2 ∈ unpair ps :=
  ⟨List.mem_flatMap.2 ⟨p, h, by simp⟩, List.mem_flatMap.2 ⟨p, h, by simp⟩⟩

end Pairs

/-! ## Parameters -/

theorem pairs_eq_ok_iff {parameter raw : String} {ps : List (String × String)} :
    pairs parameter raw = .ok ps ↔ piecesOf raw = unpair ps := by
  unfold pairs piecesOf
  split
  case isTrue =>
    rw [Except.ok.injEq]
    cases ps <;> simp [unpair]
  case isFalse =>
    rw [← pairUp_eq_some_iff]
    cases pairUp (Text.splitString ',' raw) with
    | none => simp
    | some found => simp

theorem not_mem_of_mem_piecesOf {raw piece : String} (h : piece ∈ piecesOf raw) :
    ',' ∉ piece.toList := by
  unfold piecesOf at h
  split at h
  · cases h
  · obtain ⟨cs, hcs, rfl⟩ := List.mem_map.1 h
    rw [String.toList_ofList]
    exact Text.not_mem_of_mem_split hcs

/-- What is written for pairs without commas in them has their pieces. -/
theorem piecesOf_commaJoin {ps : List (String × String)}
    (h : ∀ p ∈ ps, ',' ∉ p.1.toList ∧ ',' ∉ p.2.toList) :
    piecesOf (Query.commaJoin (unpair ps)) = unpair ps := by
  cases ps with
  | nil => rfl
  | cons p ps =>
    have hne : Query.commaJoin (unpair (p :: ps)) ≠ "" := by
      -- between the parts of the first pair stands a comma
      intro hempty
      have hcomma : ',' ∈ (Query.commaJoin (unpair (p :: ps))).toList := by
        simp [Query.commaJoin, unpair, Text.join]
      rw [hempty] at hcomma
      cases hcomma
    have hpieces : ∀ piece ∈ (unpair (p :: ps)).map String.toList, ',' ∉ piece := by
      intro piece hpiece
      obtain ⟨written, hwritten, rfl⟩ := List.mem_map.1 hpiece
      obtain ⟨pair, hpair, hpart⟩ := List.mem_flatMap.1 hwritten
      rcases List.mem_pair.1 hpart with rfl | rfl
      · exact (h pair hpair).1
      · exact (h pair hpair).2
    rw [piecesOf, if_neg hne, Text.splitString, Query.commaJoin, String.toList_ofList,
      Text.split_join (by simp [unpair]) hpieces, List.map_map]
    simp

namespace SortKey

/-- The sort keys of pairs are read when all directions are. -/
theorem mapM_ofPair_eq_ok_iff {ps : List (String × String)} {keys : List SortKey} :
    (ps.mapM fun p => ofPair p.1 p.2) = .ok keys ↔
      (∀ p ∈ ps, p.1 = "a" ∨ p.1 = "d") ∧
        keys = ps.map fun p => { property := .parse p.2, ascending := p.1 = "a" } := by
  induction ps generalizing keys with
  | nil =>
    rw [List.mapM_nil, pure_eq_ok_iff]
    simp [eq_comm]
  | cons p ps ih =>
    rw [List.mapM_cons, bind_eq_ok_iff]
    simp only [bind_eq_ok_iff, pure_eq_ok_iff, ih, List.forall_mem_cons, List.map_cons]
    by_cases ha : p.1 = "a"
    · simp [ofPair, ha, eq_comm]
    · by_cases hd : p.1 = "d"
      · simp [ofPair, hd, eq_comm]
      · simp [ofPair, ha, hd]

end SortKey

namespace Query

/-- The parameters make a query: the pieces of each are even in number, and the sort directions
among them are `a` or `d`. -/
structure WellFormed (filterBy sortBy : String) : Prop where
  filters : Even (piecesOf filterBy).length
  sorts : Even (piecesOf sortBy).length
  directions : ∀ i piece, (piecesOf sortBy)[2 * i]? = some piece → piece = "a" ∨ piece = "d"

/-- The query is what the pieces of the parameters say: the filters are the pairs with a term, and
the sort keys are all pairs, in order. -/
structure Means (filterBy sortBy : String) (query : Query) : Prop where
  filters : ∃ ps, piecesOf filterBy = unpair ps ∧
    query.filters = (ps.filter fun p => p.2 ≠ "").map fun p => ⟨.parse p.1, p.2⟩
  sorts : ∃ ps, piecesOf sortBy = unpair ps ∧
    query.sorts = ps.map fun p => ⟨.parse p.2, p.1 = "a"⟩

variable {filterBy sortBy : Option String} {size number : Option Nat} {query : Query}

theorem parse_eq_ok_iff :
    parse filterBy sortBy size number = .ok query ↔
      ∃ filterPairs sortPairs,
        piecesOf (filterBy.getD "") = unpair filterPairs ∧
        piecesOf (sortBy.getD "") = unpair sortPairs ∧
        (∀ p ∈ sortPairs, p.1 = "a" ∨ p.1 = "d") ∧
        query = {
          filters := Filter.ofPairs filterPairs
          sorts := sortPairs.map fun p => { property := .parse p.2, ascending := p.1 = "a" }
          page := { size := size.getD 0, number := number.getD 1 } } := by
  simp only [parse, bind_eq_ok_iff, pure_eq_ok_iff, pairs_eq_ok_iff]
  constructor
  · rintro ⟨filterPairs, hfilters, sortPairs, hsorts, keys, hkeys, rfl⟩
    obtain ⟨hdirections, rfl⟩ := SortKey.mapM_ofPair_eq_ok_iff.1 hkeys
    exact ⟨filterPairs, sortPairs, hfilters, hsorts, hdirections, rfl⟩
  · rintro ⟨filterPairs, sortPairs, hfilters, hsorts, hdirections, rfl⟩
    exact ⟨filterPairs, hfilters, sortPairs, hsorts, _,
      SortKey.mapM_ofPair_eq_ok_iff.2 ⟨hdirections, rfl⟩, rfl⟩

theorem exists_parse_iff :
    (∃ query, parse filterBy sortBy size number = .ok query) ↔
      WellFormed (filterBy.getD "") (sortBy.getD "") := by
  simp only [parse_eq_ok_iff]
  constructor
  · rintro ⟨_, filterPairs, sortPairs, hfilters, hsorts, hdirections, -⟩
    refine ⟨even_length_iff.2 ⟨_, hfilters⟩, even_length_iff.2 ⟨_, hsorts⟩, ?_⟩
    rw [hsorts]
    exact forall_getElem?_unpair.2 hdirections
  · -- pieces that are even in number are those of pairs
    rintro ⟨hfilters, hsorts, hdirections⟩
    obtain ⟨filterPairs, hfilters⟩ := even_length_iff.1 hfilters
    obtain ⟨sortPairs, hsorts⟩ := even_length_iff.1 hsorts
    rw [hsorts] at hdirections
    exact ⟨_, filterPairs, sortPairs, hfilters, hsorts, forall_getElem?_unpair.1 hdirections, rfl⟩

theorem means_of_parse (h : parse filterBy sortBy size number = .ok query) :
    Means (filterBy.getD "") (sortBy.getD "") query := by
  obtain ⟨filterPairs, sortPairs, hfilters, hsorts, -, rfl⟩ := parse_eq_ok_iff.1 h
  exact ⟨⟨filterPairs, hfilters, rfl⟩, ⟨sortPairs, hsorts, rfl⟩⟩

/-! ## Writing a query -/

/-- The query can be written: no comma stands in a text of it, no term is empty, and properties are
what their texts name. -/
structure Writable (query : Query) : Prop where
  filters : ∀ f ∈ query.filters, ',' ∉ f.property.text.toList ∧ ',' ∉ f.term.toList ∧
    f.term ≠ "" ∧ .parse f.property.text = f.property
  sorts : ∀ k ∈ query.sorts, ',' ∉ k.property.text.toList ∧ .parse k.property.text = k.property

theorem writable_of_parse (h : parse filterBy sortBy size number = .ok query) :
    query.Writable := by
  obtain ⟨filterPairs, sortPairs, hfilters, hsorts, -, rfl⟩ := parse_eq_ok_iff.1 h
  constructor
  · -- the texts are pieces that were read, so no comma stands in them
    intro f hf
    obtain ⟨p, hp, rfl⟩ := List.mem_map.1 hf
    obtain ⟨hmem, hterm⟩ := List.mem_filter.1 hp
    obtain ⟨hfst, hsnd⟩ := mem_unpair hmem
    rw [← hfilters] at hfst hsnd
    have htext : (Property.parse p.1).text = p.1 := Property.text_parse p.1
    refine ⟨?_, not_mem_of_mem_piecesOf hsnd, of_decide_eq_true hterm, ?_⟩
    · rw [htext]
      exact not_mem_of_mem_piecesOf hfst
    · rw [htext]
  · intro k hk
    obtain ⟨p, hp, rfl⟩ := List.mem_map.1 hk
    have hsnd := (mem_unpair hp).2
    rw [← hsorts] at hsnd
    have htext : (Property.parse p.2).text = p.2 := Property.text_parse p.2
    dsimp only
    rw [htext]
    exact ⟨not_mem_of_mem_piecesOf hsnd, rfl⟩

/-- The pairs that are written for the filters. -/
def filterPairs (query : Query) : List (String × String) :=
  query.filters.map fun f => (f.property.text, f.term)

/-- The pairs that are written for the sort keys. -/
def sortPairs (query : Query) : List (String × String) :=
  query.sorts.map fun k => (if k.ascending then "a" else "d", k.property.text)

theorem Writable.piecesOf_filterText (h : query.Writable) :
    piecesOf query.filterText = unpair query.filterPairs := by
  have htext : query.filterText = commaJoin (unpair query.filterPairs) := by
    rw [filterText, unpair, filterPairs, List.flatMap_map]
  rw [htext]
  refine piecesOf_commaJoin fun p hp => ?_
  obtain ⟨f, hf, rfl⟩ := List.mem_map.1 hp
  exact ⟨(h.filters f hf).1, (h.filters f hf).2.1⟩

theorem Writable.piecesOf_sortText (h : query.Writable) :
    piecesOf query.sortText = unpair query.sortPairs := by
  have htext : query.sortText = commaJoin (unpair query.sortPairs) := by
    rw [sortText, unpair, sortPairs, List.flatMap_map]
  rw [htext]
  refine piecesOf_commaJoin fun p hp => ?_
  obtain ⟨k, hk, rfl⟩ := List.mem_map.1 hp
  refine ⟨?_, (h.sorts k hk).1⟩
  dsimp only
  split <;> decide

theorem Writable.ofPairs_filterPairs (h : query.Writable) :
    Filter.ofPairs query.filterPairs = query.filters := by
  -- no term is empty, so no pair is dropped
  have hkept : query.filterPairs.filter (fun p => p.2 ≠ "") = query.filterPairs := by
    refine List.filter_eq_self.2 fun p hp => ?_
    obtain ⟨f, hf, rfl⟩ := List.mem_map.1 hp
    exact decide_eq_true (h.filters f hf).2.2.1
  rw [Filter.ofPairs, hkept, filterPairs, List.map_map]
  refine (List.map_congr_left fun f hf => ?_).trans (List.map_id _)
  exact congrArg (Filter.mk · f.term) (h.filters f hf).2.2.2

theorem Writable.map_sortPairs (h : query.Writable) :
    (query.sortPairs.map fun p =>
      ({ property := .parse p.2, ascending := p.1 = "a" } : SortKey)) = query.sorts := by
  rw [sortPairs, List.map_map]
  refine (List.map_congr_left fun k hk => ?_).trans (List.map_id _)
  have hdirection : decide ((if k.ascending then "a" else "d") = "a") = k.ascending := by
    cases k.ascending <;> decide
  simp only [Function.comp_apply, hdirection, (h.sorts k hk).2, id_eq]

/-- What is written for a query is read as the query. -/
theorem Writable.parse_text (h : query.Writable) :
    parse (some query.filterText) (some query.sortText) (some query.page.size)
      (some query.page.number) = .ok query := by
  refine parse_eq_ok_iff.2 ⟨query.filterPairs, query.sortPairs, h.piecesOf_filterText,
    h.piecesOf_sortText, fun p hp => ?_, ?_⟩
  · obtain ⟨k, -, rfl⟩ := List.mem_map.1 hp
    dsimp only
    split
    · exact Or.inl rfl
    · exact Or.inr rfl
  · rw [h.ofPairs_filterPairs, h.map_sortPairs]
    rfl

/-! ## Reading and writing -/

/-- Two parameters are read as a query exactly when they make one; the query says what they say,
and what is written for it is read as the same query. -/
structure ReadsExactly (filterBy sortBy : Option String) (size number : Option Nat) : Prop where
  read_iff : (∃ query, parse filterBy sortBy size number = .ok query) ↔
    WellFormed (filterBy.getD "") (sortBy.getD "")
  means : ∀ query, parse filterBy sortBy size number = .ok query →
    Means (filterBy.getD "") (sortBy.getD "") query
  again : ∀ query, parse filterBy sortBy size number = .ok query →
    parse (some query.filterText) (some query.sortText) (some query.page.size)
      (some query.page.number) = .ok query

/-- Queries are read exactly and written as they were read. The text of the property that a text
names is that text, so different texts name different properties, and a fixed word or a label is
named by its own text alone. -/
theorem reads_exactly :
    (∀ filterBy sortBy size number, ReadsExactly filterBy sortBy size number) ∧
      (∀ s, (Property.parse s).text = s) ∧ Function.Injective Property.parse ∧
      ∀ property : Property, (∀ name, property ≠ .other name) →
        ∀ s, Property.parse s = property ↔ s = property.text :=
  ⟨fun _ _ _ _ => {
    read_iff := exists_parse_iff
    means := fun _ h => means_of_parse h
    again := fun _ h => (writable_of_parse h).parse_text },
    Property.text_parse, Property.parse_injective, fun _ h _ => Property.parse_eq_iff h⟩

end Query

end Selection

end FleetDashboard
