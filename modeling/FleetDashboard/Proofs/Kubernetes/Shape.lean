import Mathlib.Data.List.Find
import FleetDashboard.Kubernetes.Object
import FleetDashboard.Proofs.Outcome

/-!
# Values of a type

What it takes for a value to be of a type, by the way in which the type is made: every item of a
list, every entry of a map and every field that a record has must be of its type, at any depth. The
fields of an object are all gone through, so an object can be read exactly if each of its fields is
of the right type.

* `Shape.Admits`: a value is of a type.
* `Shape.admits_list_iff`, `Shape.admits_map_iff`, `Shape.admits_record_iff`: values that are made
  of others.
* `Member.Fits`: every field that a record has is of its type.
* `Member.Fits.admits`, `Fields.records?_of_admits`: what is picked out of fields that fit.
* `TypeFields.scan_eq_ok_iff`: objects of which every field is of the right type.
-/

namespace FleetDashboard

variable {α : Type} {json : Json} {members : List Member} {fields : Fields}

/-! ## Lists and maps -/

/-- Where a flaw lies makes no difference to whether there is one. -/
theorem DecodeFlaw.under_eq_ok_iff {step : Json.Step} {outcome : Except DecodeFlaw α} {value : α} :
    under step outcome = .ok value ↔ outcome = .ok value :=
  mapError_eq_ok_iff

/-- A list can be read exactly if each of its items can be. -/
theorem Decoder.exists_list_eq_ok_iff {item : Decoder α} :
    (∃ values, Decoder.list item json = .ok values) ↔
      ∃ items, json = .arr items ∧ ∀ x ∈ items, ∃ value, item x = .ok value := by
  cases json with
  | arr items =>
    simp only [list, exists_mapM_eq_ok_iff, DecodeFlaw.under_eq_ok_iff, Json.arr.injEq,
      exists_eq_left']
    -- items are read together with their places, which only tell where a flaw lies
    constructor
    · intro h x hx
      rw [← List.zipIdx_map_fst 0 items] at hx
      obtain ⟨indexed, hindexed, rfl⟩ := List.mem_map.1 hx
      exact h indexed hindexed
    · intro h indexed hindexed
      exact h indexed.1 (List.fst_mem_of_mem_zipIdx hindexed)
  | _ => exact iff_of_false nofun nofun

/-- A map can be read exactly if each of its entries can be. -/
theorem Decoder.exists_map_eq_ok_iff {item : Decoder α} :
    (∃ entries, Decoder.map item json = .ok entries) ↔
      ∃ fields, json = .obj fields ∧ ∀ field ∈ fields, ∃ value, item field.2 = .ok value := by
  cases json with
  | obj fields =>
    simp only [map, exists_bind_pure_eq_ok_iff, exists_mapM_eq_ok_iff,
      DecodeFlaw.under_eq_ok_iff, Json.obj.injEq, exists_eq_left']
  | _ => exact iff_of_false nofun nofun

/-! ## Types -/

/-- A value is of a type. -/
def Shape.Admits (shape : Shape) (json : Json) : Prop :=
  ∃ written, shape.read json = .ok written

/-- The fields that a record has are of their types. A field that is null is as good as absent. -/
def Member.Fits (members : List Member) (fields : Fields) : Prop :=
  ∀ field ∈ fields, field.2 ≠ .null →
    ∀ member ∈ members.find? fun member => member.name == field.1, member.shape.Admits field.2

/-- The values of a list type are the lists whose items are of the item type. -/
theorem Shape.admits_list_iff {item : Shape} :
    (Shape.list item).Admits json ↔ ∃ items, json = .arr items ∧ ∀ x ∈ items, item.Admits x :=
  exists_bind_pure_eq_ok_iff.trans Decoder.exists_list_eq_ok_iff

/-- The values of a map type are the maps whose entries are of the entry type. -/
theorem Shape.admits_map_iff {item : Shape} :
    (Shape.map item).Admits json ↔
      ∃ fields, json = .obj fields ∧ ∀ field ∈ fields, item.Admits field.2 :=
  exists_bind_pure_eq_ok_iff.trans Decoder.exists_map_eq_ok_iff

/-- The fields that a record has are those of which one of its members has the name. -/
theorem Member.mem_present_iff {pair : Member × Json} :
    pair ∈ present members fields ↔
      ∃ field ∈ fields, field.2 ≠ .null ∧ field.2 = pair.2 ∧
        (members.find? fun member => member.name == field.1) = some pair.1 := by
  rw [present, List.mem_filterMap]
  refine exists_congr fun field => and_congr_right fun _ => ?_
  obtain ⟨member, value⟩ := pair
  obtain ⟨name, given⟩ := field
  -- what is null is left out, whichever name it has
  cases given with
  | null => exact iff_of_false nofun fun h => h.1 rfl
  | _ =>
    simp only [Option.map_eq_some_iff, Prod.mk.injEq, ne_eq, reduceCtorEq, not_false_eq_true,
      true_and]
    constructor
    · rintro ⟨_, hfound, rfl, rfl⟩
      exact ⟨rfl, hfound⟩
    · rintro ⟨rfl, hfound⟩
      exact ⟨member, hfound, rfl, rfl⟩

/-- The fields of a record can be read exactly if those that it has are of their types. -/
theorem Member.exists_read_eq_ok_iff :
    (∃ written, read members fields = .ok written) ↔ Fits members fields := by
  simp only [read, exists_bind_pure_eq_ok_iff, exists_mapM_eq_ok_iff,
    DecodeFlaw.under_eq_ok_iff, mem_present_iff]
  constructor
  · intro h field hfield hvalue member hmember
    exact h (member, field.2) ⟨field, hfield, hvalue, rfl, hmember⟩
  · rintro h ⟨member, value⟩ ⟨field, hfield, hvalue, rfl, hmember⟩
    exact h field hfield hvalue member hmember

/-- The values of a record type are the objects whose fields fit. -/
theorem Shape.admits_record_iff {name : String} :
    (Shape.record name members).Admits json ↔
      ∃ fields, json = .obj fields ∧ Member.Fits members fields := by
  cases json with
  | obj fields =>
    simp only [Json.obj.injEq, exists_eq_left']
    exact exists_bind_pure_eq_ok_iff.trans Member.exists_read_eq_ok_iff
  | _ => exact iff_of_false nofun nofun

/-! ## What is picked out -/

/-- A field is found among those that are left when fields of other names are taken away. -/
theorem Json.lookup_filter {names : List String} {name : String} (h : name ∉ names)
    (fields : Fields) :
    lookup name (fields.filter fun field => field.1 ∉ names) = lookup name fields := by
  have hstays : ∀ field ∈ fields,
      (decide (field.1 ∉ names) && field.1 == name) = (field.1 == name) := by
    intro field _
    cases hname : field.1 == name with
    | false => exact Bool.and_false _
    | true =>
      rw [beq_iff_eq.1 hname, Bool.and_true]
      exact decide_eq_true h
  rw [lookup, lookup, List.find?_filter]
  simp only [Bool.decide_and, Bool.decide_eq_true]
  exact congrArg _ (List.find?_congr hstays)

/-- What is found in a field that a record has is of the type of the field, unless it is null. -/
theorem Member.Fits.admits {name : String} {member : Member} (h : Fits members fields)
    (hmember : members.find? (·.name == name) = some member)
    (hlookup : Json.lookup name fields = some json) (hjson : json ≠ .null) :
    member.shape.Admits json := by
  obtain ⟨field, hfound, rfl⟩ := Option.map_eq_some_iff.1 hlookup
  have hname : field.1 = name := by simpa using List.find?_some hfound
  rw [← hname] at hmember
  exact h field (List.mem_of_find?_eq_some hfound) hjson member hmember

/-- The records of a list are picked out with all the fields that they have. -/
theorem Fields.records?_of_admits {name type : String}
    (h : (Shape.list (.record type members)).Admits json)
    (hlookup : Json.lookup name fields = some json) :
    ∃ records, json = .arr (records.map Json.obj) ∧ fields.records? name = some records ∧
      ∀ record ∈ records, Member.Fits members record := by
  obtain ⟨items, rfl, hitems⟩ := Shape.admits_list_iff.1 h
  -- nothing but records is in the list, so taking their fields loses nothing
  have hrecord : ∀ item ∈ items, item = .obj item.fields ∧ Member.Fits members item.fields := by
    intro item hitem
    obtain ⟨given, rfl, hfits⟩ := Shape.admits_record_iff.1 (hitems item hitem)
    exact ⟨rfl, hfits⟩
  have hsame : items.map (fun item => .obj item.fields) = items :=
    (List.map_congr_left fun item hitem => (hrecord item hitem).1.symm).trans (List.map_id' items)
  refine ⟨items.map Json.fields, ?_, ?_, ?_⟩
  · rw [List.map_map]
    exact congrArg Json.arr hsame.symm
  · rw [records?, hlookup]
  · intro record hrecordMem
    obtain ⟨item, hitem, rfl⟩ := List.mem_map.1 hrecordMem
    exact (hrecord item hitem).2

/-! ## Objects -/

namespace TypeFields

variable {apiVersion kind : String}

/-- A field about the type passes exactly if it is the wanted one. -/
theorem check_eq_ok_iff {name : String} :
    check apiVersion kind name json = .ok () ↔ json = .str (wanted apiVersion kind name) := by
  cases json with
  | str given =>
    rw [Json.str.injEq]
    by_cases h : given = wanted apiVersion kind name
    · exact iff_of_true (if_neg fun hne => hne h) h
    · have hfails : check apiVersion kind name (.str given) =
          .error (.inside (.behindField name)
            (.value (.str given) (wanted apiVersion kind name))) := if_pos h
      rw [hfails]
      exact iff_of_false nofun h
  | _ => exact iff_of_false nofun nofun

/-- One field passes exactly if it is the wanted one or of its type. -/
theorem scanField_eq_ok_iff {field : String × Json} :
    scanField apiVersion kind members field = .ok () ↔
      (field.1 ∈ names → field.2 = .str (wanted apiVersion kind field.1)) ∧
        (field.1 ∉ names → Member.Fits members [field]) := by
  rw [scanField]
  by_cases h : field.1 ∈ names
  · rw [if_pos h, check_eq_ok_iff]
    exact ⟨fun hfield => ⟨fun _ => hfield, absurd h⟩, fun hfield => hfield.1 h⟩
  · rw [if_neg h, discard_eq_ok_iff, Member.exists_read_eq_ok_iff]
    exact ⟨fun hfield => ⟨(absurd · h), fun _ => hfield⟩, fun hfield => hfield.2 h⟩

/-- The fields of an object can be gone through exactly if those about its type are the wanted ones
and the others that it has are of their types. -/
theorem scan_eq_ok_iff :
    scan apiVersion kind members fields = .ok () ↔
      (∀ field ∈ fields, field.1 ∈ names → field.2 = .str (wanted apiVersion kind field.1)) ∧
        Member.Fits members (fields.filter fun field => field.1 ∉ names) := by
  simp only [scan, forM_eq_ok_iff, scanField_eq_ok_iff, Member.Fits, List.mem_filter,
    List.forall_mem_singleton, decide_eq_true_eq]
  constructor
  · intro h
    exact ⟨fun field hfield => (h field hfield).1,
      fun field hfield => (h field hfield.1).2 hfield.2⟩
  · intro h field hfield
    exact ⟨h.1 field hfield, fun hname => h.2 field ⟨hfield, hname⟩⟩

end TypeFields

end FleetDashboard
