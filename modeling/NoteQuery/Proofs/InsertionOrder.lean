import NoteQuery.Query.Answer
import NoteQuery.Proofs.FirstOccurrences
import Mathlib.Data.List.Forall2

/-!
# Records as insertion-ordered maps

Fields of a record are set one after the other, each time with the value that is replaced, if any.
What the record is afterwards is told by the fields that were set and the order in which they were
set (`replaceAll_insertionOrdered`): its names are theirs in the order of first occurrence, and
under each name stands the value that was given last. The lemmas about one field are `keys_insert`
and `get?_insert`, and a run is followed from its end, field by field.

A record that is reduced to some fields comes from such a run (`keys_project`, `get?_project`). Its
names and values can be said without building it (`IsReduced`), and there is one such record only.
-/

namespace NoteQuery

/-! ## Values given under a name -/

namespace Entries

variable {α : Type}

/-- The values that are given under a name, in order. -/
def given (key : String) (entries : Entries α) : List α :=
  (entries.filter (fun entry => entry.1 == key)).map (·.2)

theorem given_concat (key : String) (entries : Entries α) (entry : String × α) :
    given key (entries ++ [entry]) =
      if entry.1 = key then given key entries ++ [entry.2] else given key entries := by
  by_cases hkey : entry.1 = key
  · simp [given, hkey]
  · simp [given, hkey]

/-- Entries are told apart by their names and by what is found under these. -/
theorem eq_of_find?_eq {entries others : Entries α} (hnodup : entries.keys.Nodup)
    (hkeys : entries.keys = others.keys)
    (hfind : ∀ key ∈ entries.keys, find? key entries = find? key others) : entries = others := by
  induction entries generalizing others with
  | nil => exact (List.map_eq_nil_iff.1 hkeys.symm).symm
  | cons entry entries ih =>
    cases others with
    | nil => cases hkeys
    | cons other others =>
      obtain ⟨key, value⟩ := entry
      obtain ⟨key', value'⟩ := other
      obtain ⟨hkey, htail⟩ := List.cons.inj hkeys
      obtain rfl : key = key' := hkey
      obtain ⟨hfresh, hnodup⟩ := List.nodup_cons.1 hnodup
      have hvalue := hfind key (List.mem_cons_self ..)
      rw [find?, find?, if_pos rfl, if_pos rfl] at hvalue
      obtain rfl := Option.some.inj hvalue
      congr 1
      refine ih hnodup htail (fun name hname => ?_)
      -- the first name is another one
      have hne : key ≠ name := fun heq => hfresh (heq ▸ hname)
      have hrest := hfind name (List.mem_cons_of_mem key hname)
      rwa [find?, find?, if_neg hne, if_neg hne] at hrest

end Entries

namespace Record

/-! ## One field -/

variable {r : Record} {fields : List (String × Value)}

theorem keys_insert (r : Record) (name : String) (value : Value) :
    (r.insert name value).keys = if name ∈ r.keys then r.keys else r.keys ++ [name] :=
  Entries.keys_put name value r.fields

theorem get?_insert (r : Record) (name : String) (value : Value) (other : String) :
    (r.insert name value).get? other = if name = other then some value else r.get? other :=
  Entries.find?_put name value r.fields other

theorem size_eq_length_keys (r : Record) : r.size = r.keys.length := by
  rw [keys, Entries.keys, List.length_map, size]

/-! ## Many fields -/

theorem ofList_concat (fields : List (String × Value)) (name : String) (value : Value) :
    ofList (fields ++ [(name, value)]) = (ofList fields).insert name value := by
  rw [ofList, List.foldl_append]
  rfl

/-- Names keep the place of their first occurrence. -/
theorem keys_ofList (fields : List (String × Value)) :
    (ofList fields).keys = (fields.map (·.1)).eraseDups := by
  induction fields using List.reverseRecOn with
  | nil => rfl
  | append_singleton fields field ih =>
    rw [ofList_concat, keys_insert, ih, List.map_append, List.map_singleton, eraseDups_concat]
    simp only [List.mem_eraseDups]

/-- Of the values under a name the last one counts. -/
theorem get?_ofList (fields : List (String × Value)) (name : String) :
    (ofList fields).get? name = (Entries.given name fields).getLast? := by
  induction fields using List.reverseRecOn with
  | nil => rfl
  | append_singleton fields field ih =>
    rw [ofList_concat, get?_insert, Entries.given_concat, ih]
    split
    · exact List.getLast?_concat.symm
    · rfl

/-- Fields that are set one after the other: the values that they replace, and the record at the
end. -/
def replaceAll (r : Record) : List (String × Value) → List (Option Value) × Record
  | [] => ([], r)
  | (name, value) :: fields =>
    let (replaced, r) := r.replace name value
    let (others, r) := replaceAll r fields
    (replaced :: others, r)

theorem replaceAll_cons (r : Record) (field : String × Value) (fields : List (String × Value)) :
    r.replaceAll (field :: fields) =
      (r.get? field.1 :: ((r.insert field.1 field.2).replaceAll fields).1,
        ((r.insert field.1 field.2).replaceAll fields).2) := by
  rw [replaceAll, replace_eq]

theorem replaceAll_append (r : Record) (fields others : List (String × Value)) :
    r.replaceAll (fields ++ others) =
      ((r.replaceAll fields).1 ++ ((r.replaceAll fields).2.replaceAll others).1,
        ((r.replaceAll fields).2.replaceAll others).2) := by
  induction fields generalizing r with
  | nil => rfl
  | cons field fields ih =>
    rw [List.cons_append, replaceAll_cons, replaceAll_cons, ih, List.cons_append]

/-- A last field replaces what the record has under its name. -/
theorem replaceAll_concat (r : Record) (fields : List (String × Value)) (name : String)
    (value : Value) :
    r.replaceAll (fields ++ [(name, value)]) =
      ((r.replaceAll fields).1 ++ [(r.replaceAll fields).2.get? name],
        (r.replaceAll fields).2.insert name value) := by
  rw [replaceAll_append, replaceAll_cons, replaceAll]

/-- The record at the end is the record of the fields. -/
theorem replaceAll_empty (fields : List (String × Value)) :
    (empty.replaceAll fields).2 = ofList fields := by
  induction fields using List.reverseRecOn with
  | nil => rfl
  | append_singleton fields field ih => rw [replaceAll_concat, ih, ← ofList_concat]

theorem length_replaceAll (r : Record) (fields : List (String × Value)) :
    (r.replaceAll fields).1.length = fields.length := by
  induction fields using List.reverseRecOn with
  | nil => rfl
  | append_singleton fields field ih =>
    rw [replaceAll_concat, List.length_append, List.length_append, ih]
    rfl

/-- Each field replaces what the fields in front of it have left under its name. -/
theorem getElem?_replaceAll_empty (fields : List (String × Value)) (i : ℕ) :
    (empty.replaceAll fields).1[i]? =
      fields[i]?.map (fun field => (ofList (fields.take i)).get? field.1) := by
  induction fields using List.reverseRecOn with
  | nil => rfl
  | append_singleton fields field ih =>
    have hlength := length_replaceAll empty fields
    rw [replaceAll_concat, replaceAll_empty]
    rcases Nat.lt_trichotomy i fields.length with hlt | rfl | hgt
    · have htake : (fields ++ [field]).take i = fields.take i :=
        List.take_append_of_le_length hlt.le
      rw [List.getElem?_append_left (hlength ▸ hlt), List.getElem?_append_left hlt, ih, htake]
    · rw [List.getElem?_append_right hlength.le, List.getElem?_append_right (Nat.le_refl _),
        List.take_left, hlength, Nat.sub_self]
      rfl
    · rw [List.getElem?_eq_none, List.getElem?_eq_none]
      · rfl
      · rw [List.length_append]
        exact hgt
      · rw [List.length_append, hlength]
        exact hgt

/-! ## The map that a run leaves -/

/-- A record holds fields that were set in this order: each name once and at the place of its first
occurrence, with the value that was given last under it. -/
structure IsInsertionOrdered (r : Record) (fields : List (String × Value)) : Prop where
  nodup_keys : r.keys.Nodup
  mem_keys_iff : ∀ name, name ∈ r.keys ↔ name ∈ fields.map (·.1)
  /-- The names stand in the order in which they were first set. -/
  pairwise_keys : r.keys.Pairwise
    (fun a b => (fields.map (·.1)).idxOf a < (fields.map (·.1)).idxOf b)
  get?_eq : ∀ name, r.get? name = (Entries.given name fields).getLast?
  field_eq : ∀ name, r.field name = ((Entries.given name fields).getLast?).getD .undefined
  size_eq : r.size = (fields.map (·.1)).toFinset.card

theorem isInsertionOrdered_ofList (fields : List (String × Value)) :
    (ofList fields).IsInsertionOrdered fields where
  nodup_keys := by
    rw [keys_ofList]
    exact nodup_eraseDups _
  mem_keys_iff name := by rw [keys_ofList, List.mem_eraseDups]
  pairwise_keys := by
    rw [keys_ofList]
    exact pairwise_idxOf_eraseDups _
  get?_eq := get?_ofList fields
  field_eq name := congrArg (·.getD .undefined) (get?_ofList fields name)
  size_eq := by rw [size_eq_length_keys, keys_ofList, length_eraseDups]

/-- **A record is an insertion-ordered map.** Fields that are set one after the other in the empty
record leave the record of these fields: its names are different and in the order in which they were
first set, and each has the value that was set last, the others being undefined. Every step returns
the value that the name had directly before, if it had one. -/
theorem replaceAll_insertionOrdered (fields : List (String × Value)) :
    (empty.replaceAll fields).2 = ofList fields ∧
      (empty.replaceAll fields).2.IsInsertionOrdered fields ∧
      ∀ i, (empty.replaceAll fields).1[i]? =
        fields[i]?.map (fun field => (empty.replaceAll (fields.take i)).2.get? field.1) := by
  refine ⟨replaceAll_empty fields, ?_, fun i => ?_⟩
  · rw [replaceAll_empty]
    exact isInsertionOrdered_ofList fields
  · rw [replaceAll_empty]
    exact getElem?_replaceAll_empty fields i

/-- A name that is set again keeps its place, and the first value comes back. -/
example : ((empty.replaceAll [("a", .null), ("b", .null), ("a", .bool true), ("c", .null)]).1,
    (empty.replaceAll [("a", .null), ("b", .null), ("a", .bool true), ("c", .null)]).2.fields) =
      ([none, none, some .null, none], [("a", .bool true), ("b", .null), ("c", .null)]) := rfl

/-! ## Reduced records -/

theorem project_concat (r : Record) (fields : List String) (name : String) :
    r.project (fields ++ [name]) = (r.project fields).insert name (r.field name) := by
  rw [project, List.map_append]
  exact ofList_concat _ name (r.field name)

theorem keys_project (r : Record) (fields : List String) :
    (r.project fields).keys = fields.eraseDups := by
  rw [project, keys_ofList, List.map_map]
  exact congrArg List.eraseDups (List.map_id fields)

/-- A field that a record is reduced to is there even if the record does not have it. -/
theorem get?_project (r : Record) (fields : List String) (name : String) :
    (r.project fields).get? name = if name ∈ fields then some (r.field name) else none := by
  induction fields using List.reverseRecOn with
  | nil => rfl
  | append_singleton fields field ih =>
    rw [project_concat, get?_insert, ih]
    by_cases hfield : field = name
    · simp [hfield]
    · simp [hfield, Ne.symm hfield]

/-- A record has the fields that it is reduced to, and no others. -/
theorem field_project (r : Record) (fields : List String) (name : String) :
    (r.project fields).field name = if name ∈ fields then r.field name else .undefined := by
  rw [field, get?_project]
  split <;> rfl

/-- `row` has the names of the fields, each where it occurs first, with the values of `source`; they
are undefined where `source` has none. -/
structure IsReduced (fields : List String) (source row : Record) : Prop where
  keys_eq : row.keys = fields.eraseDups
  get?_eq : ∀ name ∈ fields, row.get? name = some (source.field name)

theorem isReduced_project (fields : List String) (source : Record) :
    IsReduced fields source (source.project fields) where
  keys_eq := keys_project source fields
  get?_eq name hname := by rw [get?_project, if_pos hname]

/-- A record is reduced to fields in one way. -/
theorem IsReduced.unique {fields : List String} {source row other : Record}
    (h : IsReduced fields source row) (h' : IsReduced fields source other) : row = other := by
  have hkeys : row.keys = other.keys := h.keys_eq.trans h'.keys_eq.symm
  have hfields : row.fields = other.fields := by
    refine Entries.eq_of_find?_eq row.nodup_keys hkeys (fun name hname => ?_)
    have hmem : name ∈ fields := by
      rw [← List.mem_eraseDups, ← h.keys_eq]
      exact hname
    exact (h.get?_eq name hmem).trans (h'.get?_eq name hmem).symm
  cases row
  cases other
  cases hfields
  rfl

/-- Reducing rows reduces each of them. -/
theorem forall₂_isReduced (fields : List String) (sources : List Record) :
    List.Forall₂ (IsReduced fields) sources
      (sources.map (fun source => source.project fields)) := by
  rw [List.forall₂_map_right_iff, List.forall₂_same]
  exact fun source _ => isReduced_project fields source

end Record

end NoteQuery
