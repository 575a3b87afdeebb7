import NoteQuery.Proofs.OrderedMaps
import NoteQuery.Proofs.WholeNumbers
import NoteQuery.Value.Comparison

/-!
# Records that are written to JSON and read again

JSON has no missing fields, no page references, no numbers that are not finite, and writes both
zeros as the integer zero. So a record that is read from its own JSON image is its *plain form*:
null in place of missing fields and of numbers that are not finite, strings in place of page
references, and zeros without a sign (`Record.json_roundTrip`). Nothing else changes, however deep
lists and maps are nested.
-/

namespace NoteQuery

/-! ## Numbers -/

namespace Binary64

theorem isFinite_withoutNegativeZero (x : Binary64) :
    x.withoutNegativeZero.isFinite = true ↔ x.isFinite = true := by
  rw [withoutNegativeZero]
  split
  · rename_i hzero
    have hmagnitude : x.magnitude = 0 := eq_of_beq hzero
    have hfinite : x.isFinite = true := by
      rw [isFinite, hmagnitude]
      decide
    exact iff_of_true (by decide) hfinite
  · rfl

theorem withoutNegativeZero_withoutNegativeZero (x : Binary64) :
    x.withoutNegativeZero.withoutNegativeZero = x.withoutNegativeZero := by
  by_cases hzero : x.isZero = true
  · rw [withoutNegativeZero, withoutNegativeZero, if_pos hzero]
    rfl
  · rw [withoutNegativeZero, withoutNegativeZero, if_neg hzero, if_neg hzero]

/-- A finite number is no NaN. -/
theorem isNaN_of_isFinite {x : Binary64} (h : x.isFinite = true) : x.isNaN = false := by
  have hlt : x.magnitude < infinityMagnitude := of_decide_eq_true h
  exact decide_eq_false (Nat.lt_asymm hlt)

/-- The sign of a zero does not count in the numeric order. -/
theorem orderKey_withoutNegativeZero (x : Binary64) :
    x.withoutNegativeZero.orderKey = x.orderKey := by
  rw [withoutNegativeZero]
  split
  · rename_i hzero
    have hmagnitude : x.magnitude = 0 := eq_of_beq hzero
    have hkey : x.orderKey = 0 := by
      rw [orderKey, hmagnitude]
      split <;> rfl
    rw [hkey]
    rfl
  · rfl

theorem numericEq_withoutNegativeZero {x : Binary64} (h : x.isFinite = true) :
    x.numericEq x.withoutNegativeZero = true := by
  have hplain := isNaN_of_isFinite ((isFinite_withoutNegativeZero x).2 h)
  rw [numericEq, isNaN_of_isFinite h, hplain, orderKey_withoutNegativeZero]
  simp

end Binary64

namespace Value

/-! ## Plain values -/

/-- A number as JSON keeps it. -/
def plainNumber (x : Binary64) : Value :=
  if x.isFinite then number x.withoutNegativeZero else null

mutual

/-- What JSON keeps of a value. -/
def plain : Value → Value
  | undefined => null
  | null => null
  | bool b => bool b
  | number x => plainNumber x
  | string s => string s
  | pageRef s => string s
  | list items => list (plainItems items)
  | map entries => map (plainEntries entries)

/-- What JSON keeps of items. -/
def plainItems : List Value → List Value
  | [] => []
  | item :: items => plain item :: plainItems items

/-- What JSON keeps of entries. -/
def plainEntries : List (String × Value) → List (String × Value)
  | [] => []
  | (key, value) :: entries => (key, plain value) :: plainEntries entries

end

theorem plainEntries_eq_map (entries : List (String × Value)) :
    plainEntries entries = entries.map (fun entry => (entry.1, entry.2.plain)) := by
  induction entries with
  | nil => rfl
  | cons entry entries ih => rw [plainEntries, ih, List.map_cons]

theorem keys_plainEntries (entries : List (String × Value)) :
    Entries.keys (plainEntries entries) = Entries.keys entries := by
  rw [plainEntries_eq_map, Entries.keys, List.map_map]
  rfl

theorem find?_plainEntries (name : String) (entries : List (String × Value)) :
    Entries.find? name (plainEntries entries) = (Entries.find? name entries).map plain := by
  induction entries with
  | nil => rfl
  | cons entry entries ih =>
    rw [plainEntries, Entries.find?, Entries.find?, ih]
    split <;> rfl

/-! ## Reading what is written -/

/-- A number is written as an integer only if it is one, and else as it is. -/
theorem ofJson_numberToJson (x : Binary64) : ofJson (numberToJson x) = plainNumber x := by
  rw [numberToJson, plainNumber]
  by_cases hfinite : x.isFinite = true
  · rw [if_pos hfinite, if_pos hfinite]
    cases hint : x.toInt? with
    | none =>
      have hzero : x.isZero = false := Binary64.isZero_of_toInt?_eq_none hfinite hint
      rw [Binary64.withoutNegativeZero, if_neg (by simp [hzero])]
      rfl
    | some n =>
      dsimp only
      by_cases hsmall : n.natAbs < twoTo 63
      · rw [if_pos hsmall, ← Binary64.ofInt_of_toInt? hint]
        rfl
      · -- zero would have been written as an integer
        have hzero : ¬ x.isZero = true := by
          intro hzero
          have hn := Binary64.eq_zero_of_toInt? hint hzero
          exact hsmall (hn ▸ Nat.two_pow_pos 63)
        rw [if_neg hsmall, Binary64.withoutNegativeZero, if_neg hzero]
        rfl
  · rw [if_neg hfinite, if_neg hfinite]
    rfl

mutual

/-- What is read from the JSON image of a value is its plain form. -/
theorem ofJson_toJson (v : Value) (h : v.HasOrderedMaps) : ofJson v.toJson = v.plain := by
  match v with
  | undefined | null | bool _ | string _ | pageRef _ => rfl
  | number x => exact ofJson_numberToJson x
  | list items =>
    rw [toJson, ofJson, plain, ofJsonItems_toJsonItems items (hasOrderedMaps_list_iff.1 h)]
  | map entries =>
    obtain ⟨hascending, hentries⟩ := hasOrderedMaps_map_iff.1 h
    have hplain : Entries.Ascending (plainEntries entries) := by
      rw [Entries.Ascending, keys_plainEntries]
      exact hascending
    rw [toJson, ofJson, plain, ofJsonMembers_toJsonEntries entries hentries,
      mapOf_of_ascending hplain]

theorem ofJsonItems_toJsonItems (items : List Value) (h : ∀ item ∈ items, item.HasOrderedMaps) :
    ofJsonItems (toJsonItems items) = plainItems items := by
  match items with
  | [] => rfl
  | item :: items =>
    obtain ⟨hitem, hitems⟩ := List.forall_mem_cons.1 h
    rw [toJsonItems, ofJsonItems, plainItems, ofJson_toJson item hitem,
      ofJsonItems_toJsonItems items hitems]

theorem ofJsonMembers_toJsonEntries (entries : List (String × Value))
    (h : ∀ entry ∈ entries, entry.2.HasOrderedMaps) :
    ofJsonMembers (toJsonEntries entries) = plainEntries entries := by
  match entries with
  | [] => rfl
  | (key, value) :: entries =>
    obtain ⟨hvalue, hentries⟩ := List.forall_mem_cons.1 h
    rw [toJsonEntries, ofJsonMembers, plainEntries, ofJson_toJson value hvalue,
      ofJsonMembers_toJsonEntries entries hentries]

end

theorem hasOrderedMaps_plain {v : Value} (h : v.HasOrderedMaps) : v.plain.HasOrderedMaps := by
  rw [← ofJson_toJson v h]
  exact hasOrderedMaps_ofJson v.toJson

/-! ## Plain forms of plain values -/

theorem plain_plainNumber (x : Binary64) : (plainNumber x).plain = plainNumber x := by
  by_cases hfinite : x.isFinite = true
  · have hplain := (Binary64.isFinite_withoutNegativeZero x).2 hfinite
    rw [plainNumber, if_pos hfinite, plain, plainNumber, if_pos hplain,
      Binary64.withoutNegativeZero_withoutNegativeZero]
  · rw [plainNumber, if_neg hfinite, plain]

mutual

theorem plain_plain (v : Value) : v.plain.plain = v.plain := by
  match v with
  | undefined | null | bool _ | string _ | pageRef _ => rfl
  | number x => exact plain_plainNumber x
  | list items => rw [plain, plain, plainItems_plainItems items]
  | map entries => rw [plain, plain, plainEntries_plainEntries entries]

theorem plainItems_plainItems (items : List Value) :
    plainItems (plainItems items) = plainItems items := by
  match items with
  | [] => rfl
  | item :: items => rw [plainItems, plainItems, plain_plain item, plainItems_plainItems items]

theorem plainEntries_plainEntries (entries : List (String × Value)) :
    plainEntries (plainEntries entries) = plainEntries entries := by
  match entries with
  | [] => rfl
  | (key, value) :: entries =>
    rw [plainEntries, plainEntries, plain_plain value, plainEntries_plainEntries entries]

end

/-! ## Loose equality with the plain form -/

/-- Every number in the value is finite. -/
def HasFiniteNumbers (v : Value) : Prop := ∀ x, number x ∈ v.parts → x.isFinite = true

theorem hasFiniteNumbers_list_iff {items : List Value} :
    (list items).HasFiniteNumbers ↔ ∀ item ∈ items, item.HasFiniteNumbers := by
  simp only [HasFiniteNumbers, mem_parts_list_iff]
  grind

theorem hasFiniteNumbers_map_iff {entries : List (String × Value)} :
    (map entries).HasFiniteNumbers ↔ ∀ entry ∈ entries, entry.2.HasFiniteNumbers := by
  simp only [HasFiniteNumbers, mem_parts_map_iff]
  grind

mutual

theorem looseEq_plain (v : Value) (h : v.HasFiniteNumbers) : v.looseEq v.plain = true := by
  match v with
  | undefined | null => rfl
  | bool _ | string _ | pageRef _ => exact beq_self_eq_true _
  | number x =>
    have hfinite : x.isFinite = true := h x (List.mem_singleton.2 rfl)
    rw [plain, plainNumber, if_pos hfinite]
    exact Binary64.numericEq_withoutNegativeZero hfinite
  | list items => exact looseEqItems_plainItems items (hasFiniteNumbers_list_iff.1 h)
  | map entries => exact looseEqEntries_plainEntries entries (hasFiniteNumbers_map_iff.1 h)

theorem looseEqItems_plainItems (items : List Value) (h : ∀ item ∈ items, item.HasFiniteNumbers) :
    looseEqItems items (plainItems items) = true := by
  match items with
  | [] => rfl
  | item :: items =>
    obtain ⟨hitem, hitems⟩ := List.forall_mem_cons.1 h
    rw [plainItems, looseEqItems, looseEq_plain item hitem, looseEqItems_plainItems items hitems,
      Bool.and_self]

theorem looseEqEntries_plainEntries (entries : List (String × Value))
    (h : ∀ entry ∈ entries, entry.2.HasFiniteNumbers) :
    looseEqEntries entries (plainEntries entries) = true := by
  match entries with
  | [] => rfl
  | (key, value) :: entries =>
    obtain ⟨hvalue, hentries⟩ := List.forall_mem_cons.1 h
    rw [plainEntries, looseEqEntries, looseEq_plain value hvalue,
      looseEqEntries_plainEntries entries hentries, beq_self_eq_true, Bool.and_self, Bool.and_self]

end

end Value

namespace Record

open Value

/-! ## Records -/

/-- What JSON keeps of a record: its fields in their order, each with its plain value. -/
def plain (r : Record) : Record where
  fields := plainEntries r.fields
  nodup_keys := by
    rw [keys_plainEntries]
    exact r.nodup_keys

/-- Every number in the record is finite. -/
def HasFiniteNumbers (r : Record) : Prop := ∀ entry ∈ r.fields, entry.2.HasFiniteNumbers

theorem plain_plain (r : Record) : r.plain.plain = r.plain :=
  eq_of_fields_eq (plainEntries_plainEntries r.fields)

theorem hasOrderedMaps_plain {r : Record} (h : r.HasOrderedMaps) : r.plain.HasOrderedMaps := by
  intro entry hentry
  have hmem : entry ∈ r.fields.map (fun entry => (entry.1, entry.2.plain)) := by
    rw [← plainEntries_eq_map]
    exact hentry
  obtain ⟨field, hfield, rfl⟩ := List.mem_map.1 hmem
  exact Value.hasOrderedMaps_plain (h field hfield)

/-- What is read from the JSON image of a record is its plain form. -/
theorem ofJson_toJson_eq {r : Record} (h : r.HasOrderedMaps) : ofJson r.toJson = .ok r.plain := by
  have hfields : (ofList (plainEntries r.fields)).fields = r.plain.fields :=
    fields_ofList r.plain.nodup_keys
  rw [toJson, ofJson, ofJsonMembers_toJsonEntries r.fields h, eq_of_fields_eq hfields]

theorem get?_plain (r : Record) (name : String) :
    r.plain.get? name = (r.get? name).map Value.plain := find?_plainEntries name r.fields

theorem looseEq_field_plain {r : Record} (h : r.HasFiniteNumbers) (name : String) :
    (r.field name).looseEq (r.plain.field name) = true := by
  rw [field, field, get?_plain]
  cases hget : r.get? name with
  | none => rfl
  | some value =>
    have hmem : (name, value) ∈ r.fields := Entries.mem_of_find?_eq_some hget
    exact looseEq_plain value (h _ hmem)

/-- A record that is written to JSON and read again is its plain form, and then stays as it is. If
all of its numbers are finite, each of its fields is loosely equal to what it was. -/
theorem json_roundTrip (r : Record) (h : r.HasOrderedMaps) :
    ofJson r.toJson = .ok r.plain ∧ ofJson r.plain.toJson = .ok r.plain ∧
      (r.HasFiniteNumbers → ∀ name, (r.field name).looseEq (r.plain.field name) = true) := by
  refine ⟨ofJson_toJson_eq h, ?_, looseEq_field_plain⟩
  rw [ofJson_toJson_eq (hasOrderedMaps_plain h), plain_plain]

/-- A record with a reference, a missing value, a negative zero, and a list in a map. -/
def mixedRecord : Record where
  fields := [("home", pageRef "Home"), ("due", undefined), ("rank", number (.zero true)),
    ("more", map [("done", bool false), ("pages", list [pageRef "A", number (.ofInt 3)])])]
  nodup_keys := by decide

theorem json_roundTrip_mixedRecord :
    mixedRecord.HasOrderedMaps ∧ mixedRecord.HasFiniteNumbers ∧
      ofJson mixedRecord.toJson = .ok mixedRecord.plain ∧
      mixedRecord.plain.fields =
        [("home", string "Home"), ("due", null), ("rank", number (.zero false)),
          ("more", map [("done", bool false), ("pages", list [string "A", number (.ofInt 3)])])] ∧
      ∀ name, (mixedRecord.field name).looseEq (mixedRecord.plain.field name) = true := by
  have hascending : Entries.Ascending
      [("done", bool false), ("pages", list [pageRef "A", number (.ofInt 3)])] := by
    show List.Pairwise (· < ·) ["done", "pages"]
    decide +kernel
  have hordered : mixedRecord.HasOrderedMaps := by
    simp [Record.HasOrderedMaps, Value.HasOrderedMaps, mixedRecord, parts, partsOfItems,
      partsOfEntries, hascending]
  have hfinite : mixedRecord.HasFiniteNumbers := by
    simp [Record.HasFiniteNumbers, Value.HasFiniteNumbers, mixedRecord, parts, partsOfItems,
      partsOfEntries]
    decide +kernel
  obtain ⟨hread, -, hloose⟩ := json_roundTrip mixedRecord hordered
  exact ⟨hordered, hfinite, hread, rfl, hloose hfinite⟩

end Record

end NoteQuery
