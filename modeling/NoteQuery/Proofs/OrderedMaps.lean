import NoteQuery.Record
import Mathlib.Data.List.Basic
import Mathlib.Data.List.Nodup

/-!
# Maps with ascending names

The type of values lets the entries of a map stand in any order. What a program builds has them in
ascending order of their names, in every map at any depth (`Value.HasOrderedMaps`): this holds of
whatever is read from JSON (`hasOrderedMaps_ofJson`). Entries that are in order already are put into
a map as they are (`mapOf_of_ascending`), and so are the fields of a record (`fields_ofList`).
-/

namespace NoteQuery

/-! ## Entries that are put in one by one -/

namespace Entries

variable {α : Type} {key : String} {entries : Entries α}

/-- A name above all others goes to the end. -/
theorem insertSorted_of_forall_lt (h : ∀ k ∈ entries.keys, k < key) (value : α) :
    insertSorted key value entries = entries ++ [(key, value)] := by
  induction entries with
  | nil => rfl
  | cons entry rest ih =>
    obtain ⟨hentry, hrest⟩ := List.forall_mem_cons.1 h
    have habove : ¬ key < entry.1 := fun hlt => String.lt_irrefl _ (String.lt_trans hentry hlt)
    have hother : ¬ entry.1 = key := fun heq => String.lt_irrefl _ (heq ▸ hentry)
    rw [insertSorted, if_neg habove, if_neg hother, ih hrest]
    rfl

theorem mem_of_mem_insertSorted {value : α} {entry : String × α}
    (h : entry ∈ insertSorted key value entries) : entry = (key, value) ∨ entry ∈ entries := by
  induction entries with
  | nil => exact .inl (List.mem_singleton.1 h)
  | cons other rest ih =>
    rw [insertSorted] at h
    split at h
    · exact List.mem_cons.1 h
    · split at h
      · rename_i hkey
        rw [hkey] at h
        exact (List.mem_cons.1 h).imp_right (List.mem_cons_of_mem _)
      · rcases List.mem_cons.1 h with rfl | hmem
        · exact .inr List.mem_cons_self
        · exact (ih hmem).imp_right (List.mem_cons_of_mem _)

theorem mem_of_find?_eq_some {value : α} (h : entries.find? key = some value) :
    (key, value) ∈ entries := by
  induction entries with
  | nil => cases h
  | cons entry rest ih =>
    rw [find?] at h
    split at h
    · rename_i hkey
      obtain rfl := Option.some.inj h
      exact hkey ▸ List.mem_cons_self
    · exact List.mem_cons_of_mem _ (ih h)

/-- Entries that are put in one after the other, each in its place. -/
def sortedInto (done rest : Entries α) : Entries α :=
  rest.foldl (fun done entry => insertSorted entry.1 entry.2 done) done

theorem ascending_sortedInto {done : Entries α} (h : done.Ascending) (rest : Entries α) :
    (sortedInto done rest).Ascending := by
  induction rest generalizing done with
  | nil => exact h
  | cons first rest ih => exact ih (ascending_insertSorted first.1 first.2 h)

theorem mem_of_mem_sortedInto {done rest : Entries α} {entry : String × α}
    (h : entry ∈ sortedInto done rest) : entry ∈ rest ∨ entry ∈ done := by
  induction rest generalizing done with
  | nil => exact .inr h
  | cons first rest ih =>
    rcases ih h with hrest | hinserted
    · exact .inl (List.mem_cons_of_mem _ hrest)
    · rcases mem_of_mem_insertSorted hinserted with rfl | hdone
      · exact .inl List.mem_cons_self
      · exact .inr hdone

/-- Entries in order are put in at the end. -/
theorem sortedInto_of_ascending {done rest : Entries α} (h : Ascending (done ++ rest)) :
    sortedInto done rest = done ++ rest := by
  induction rest generalizing done with
  | nil => exact (List.append_nil done).symm
  | cons first rest ih =>
    have hlt : ∀ k ∈ done.keys, k < first.1 := by
      have hpairwise := h
      rw [Ascending, keys, List.map_append, List.pairwise_append] at hpairwise
      exact fun k hk => hpairwise.2.2 k hk first.1 List.mem_cons_self
    have hsplit : done ++ first :: rest = (done ++ [first]) ++ rest :=
      List.append_cons done first rest
    rw [hsplit] at h ⊢
    rw [← ih h, ← insertSorted_of_forall_lt hlt]
    rfl

/-- A new name goes to the end. -/
theorem put_of_not_mem (h : key ∉ entries.keys) (value : α) :
    put key value entries = entries ++ [(key, value)] := by
  induction entries with
  | nil => rfl
  | cons entry rest ih =>
    obtain ⟨hentry, hrest⟩ := not_or.1 (List.mem_cons.not.1 h)
    rw [put, if_neg (fun heq => hentry heq.symm), ih hrest]
    rfl

end Entries

namespace Value

/-! ## Parts of a value -/

mutual

/-- A value and everything in it, at any depth. -/
def parts : Value → List Value
  | list items => list items :: partsOfItems items
  | map entries => map entries :: partsOfEntries entries
  | v => [v]

/-- Everything in items. -/
def partsOfItems : List Value → List Value
  | [] => []
  | item :: items => parts item ++ partsOfItems items

/-- Everything in entries. -/
def partsOfEntries : List (String × Value) → List Value
  | [] => []
  | (_, value) :: entries => parts value ++ partsOfEntries entries

end

theorem mem_partsOfItems_iff {part : Value} {items : List Value} :
    part ∈ partsOfItems items ↔ ∃ item ∈ items, part ∈ item.parts := by
  induction items with
  | nil => simp [partsOfItems]
  | cons item items ih => simp [partsOfItems, ih]

theorem mem_partsOfEntries_iff {part : Value} {entries : List (String × Value)} :
    part ∈ partsOfEntries entries ↔ ∃ entry ∈ entries, part ∈ entry.2.parts := by
  induction entries with
  | nil => simp [partsOfEntries]
  | cons entry entries ih => simp [partsOfEntries, ih]

theorem mem_parts_list_iff {part : Value} {items : List Value} :
    part ∈ (list items).parts ↔ part = list items ∨ ∃ item ∈ items, part ∈ item.parts := by
  rw [parts, List.mem_cons, mem_partsOfItems_iff]

theorem mem_parts_map_iff {part : Value} {entries : List (String × Value)} :
    part ∈ (map entries).parts ↔ part = map entries ∨ ∃ entry ∈ entries, part ∈ entry.2.parts := by
  rw [parts, List.mem_cons, mem_partsOfEntries_iff]

/-! ## Ordered maps -/

/-- In every map in the value, the names ascend. -/
def HasOrderedMaps (v : Value) : Prop :=
  ∀ entries, map entries ∈ v.parts → Entries.Ascending entries

theorem hasOrderedMaps_list_iff {items : List Value} :
    (list items).HasOrderedMaps ↔ ∀ item ∈ items, item.HasOrderedMaps := by
  simp only [HasOrderedMaps, mem_parts_list_iff]
  grind

theorem hasOrderedMaps_map_iff {entries : List (String × Value)} :
    (map entries).HasOrderedMaps ↔
      Entries.Ascending entries ∧ ∀ entry ∈ entries, entry.2.HasOrderedMaps := by
  simp only [HasOrderedMaps, mem_parts_map_iff]
  grind

theorem mapOf_eq (members : List (String × Value)) :
    mapOf members = map (Entries.sortedInto [] members) := rfl

/-- Entries in order are a map as they are. -/
theorem mapOf_of_ascending {entries : List (String × Value)} (h : Entries.Ascending entries) :
    mapOf entries = map entries := by
  have hnil : Entries.Ascending ([] ++ entries) := h
  rw [mapOf_eq, Entries.sortedInto_of_ascending hnil, List.nil_append]

theorem hasOrderedMaps_mapOf {members : List (String × Value)}
    (h : ∀ member ∈ members, member.2.HasOrderedMaps) : (mapOf members).HasOrderedMaps := by
  have hnil : Entries.Ascending ([] : List (String × Value)) := List.Pairwise.nil
  rw [mapOf_eq, hasOrderedMaps_map_iff]
  refine ⟨Entries.ascending_sortedInto hnil members, fun entry hentry => ?_⟩
  exact h entry ((Entries.mem_of_mem_sortedInto hentry).resolve_right List.not_mem_nil)

mutual

/-- Values that are read from JSON have ordered maps. -/
theorem hasOrderedMaps_ofJson (tree : Json) : (ofJson tree).HasOrderedMaps := by
  match tree with
  | .null | .bool _ | .number _ | .string _ =>
    intro entries hmem
    exact nomatch List.mem_singleton.1 hmem
  | .array items =>
    rw [ofJson, hasOrderedMaps_list_iff]
    exact hasOrderedMaps_ofJsonItems items
  | .object members =>
    rw [ofJson]
    exact hasOrderedMaps_mapOf (hasOrderedMaps_ofJsonMembers members)

theorem hasOrderedMaps_ofJsonItems (items : List Json) :
    ∀ item ∈ ofJsonItems items, item.HasOrderedMaps := by
  match items with
  | [] => nofun
  | item :: items =>
    exact List.forall_mem_cons.2 ⟨hasOrderedMaps_ofJson item, hasOrderedMaps_ofJsonItems items⟩

theorem hasOrderedMaps_ofJsonMembers (members : List (String × Json)) :
    ∀ entry ∈ ofJsonMembers members, entry.2.HasOrderedMaps := by
  match members with
  | [] => nofun
  | (key, value) :: members =>
    exact List.forall_mem_cons.2 ⟨hasOrderedMaps_ofJson value, hasOrderedMaps_ofJsonMembers members⟩

end

end Value

namespace Record

/-! ## Records -/

/-- In every map in the record, the names ascend. -/
def HasOrderedMaps (r : Record) : Prop := ∀ entry ∈ r.fields, entry.2.HasOrderedMaps

theorem eq_of_fields_eq {r s : Record} (h : r.fields = s.fields) : r = s := by
  obtain ⟨fields, hfields⟩ := r
  obtain ⟨others, hothers⟩ := s
  obtain rfl : fields = others := h
  rfl

/-- Fields with new names are put in at the end. -/
theorem fields_foldl_insert {r : Record} {rest : List (String × Value)}
    (h : (Entries.keys (r.fields ++ rest)).Nodup) :
    (rest.foldl (fun r entry => r.insert entry.1 entry.2) r).fields = r.fields ++ rest := by
  induction rest generalizing r with
  | nil => exact (List.append_nil r.fields).symm
  | cons first rest ih =>
    have hnew : first.1 ∉ Entries.keys r.fields := by
      have hnodup := h
      rw [Entries.keys, List.map_append, List.nodup_append'] at hnodup
      exact fun hmem => hnodup.2.2 hmem List.mem_cons_self
    have hinsert : (r.insert first.1 first.2).fields = r.fields ++ [first] :=
      Entries.put_of_not_mem hnew first.2
    have hsplit : r.fields ++ first :: rest = (r.insert first.1 first.2).fields ++ rest := by
      rw [hinsert, List.append_cons]
    rw [hsplit] at h ⊢
    exact ih h

/-- Fields with different names are a record as they are. -/
theorem fields_ofList {entries : List (String × Value)} (h : (Entries.keys entries).Nodup) :
    (ofList entries).fields = entries := fields_foldl_insert h

end Record

end NoteQuery
