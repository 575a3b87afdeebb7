/-! # Entries

Lists of named values with at most one value for a name. `put` keeps the order in which names were
first given, `insertSorted` keeps the names in ascending order. A name's value is looked up with
`find?`, and `replace` does both in one pass.
-/

namespace NoteQuery

/-- Named values. -/
abbrev Entries (α : Type) := List (String × α)

namespace Entries

variable {α : Type}

/-- The names, in order. -/
def keys (entries : Entries α) : List String := entries.map (·.1)

/-- The value under a name. -/
def find? (key : String) : Entries α → Option α
  | [] => none
  | (k, v) :: rest => if k = key then some v else find? key rest

/-- Sets the value under a name: in its place when the name is there, at the end otherwise. -/
def put (key : String) (value : α) : Entries α → Entries α
  | [] => [(key, value)]
  | (k, v) :: rest => if k = key then (k, value) :: rest else (k, v) :: put key value rest

/-- Sets the value under a name where it is found first, and returns the value that stood there. A
name that is not found goes to the end, and nothing is returned. -/
def replace (key : String) (value : α) : Entries α → Option α × Entries α
  | [] => (none, [(key, value)])
  | (k, v) :: rest =>
    if k = key then (some v, (k, value) :: rest)
    else
      let (replaced, rest) := replace key value rest
      (replaced, (k, v) :: rest)

/-- Sets the value under a name in a list with ascending names. -/
def insertSorted (key : String) (value : α) : Entries α → Entries α
  | [] => [(key, value)]
  | (k, v) :: rest =>
    if key < k then (key, value) :: (k, v) :: rest
    else if k = key then (k, value) :: rest
    else (k, v) :: insertSorted key value rest

/-- Whether the names ascend. -/
def Ascending (entries : Entries α) : Prop := entries.keys.Pairwise (· < ·)

/-! ## Names and values after an update -/

@[simp] theorem keys_nil : keys ([] : Entries α) = [] := rfl

@[simp] theorem keys_cons (entry : String × α) (rest : Entries α) :
    keys (entry :: rest) = entry.1 :: keys rest := rfl

/-- A name that is there keeps its place, a new one goes to the end. -/
theorem keys_put (key : String) (value : α) (entries : Entries α) :
    (put key value entries).keys =
      if key ∈ entries.keys then entries.keys else entries.keys ++ [key] := by
  induction entries with
  | nil => simp [put]
  | cons entry rest ih =>
    obtain ⟨k, v⟩ := entry
    by_cases h : k = key
    · simp [put, h]
    · have h' : ¬ key = k := fun e => h e.symm
      simp only [put, h, if_false, keys_cons, ih, List.mem_cons, h', false_or]
      split <;> simp

theorem nodup_keys_put (key : String) (value : α) {entries : Entries α}
    (h : entries.keys.Nodup) : (put key value entries).keys.Nodup := by
  rw [keys_put]
  split
  · exact h
  · rename_i hk
    rw [List.nodup_append]
    refine ⟨h, by simp, ?_⟩
    intro a ha b hb e
    simp only [List.mem_singleton] at hb
    subst hb; subst e
    exact hk ha

/-- An update changes what is found under its own name only. -/
theorem find?_put (key : String) (value : α) (entries : Entries α) (name : String) :
    find? name (put key value entries) = if key = name then some value else find? name entries := by
  induction entries with
  | nil => rfl
  | cons entry rest ih =>
    obtain ⟨k, v⟩ := entry
    by_cases hk : k = key
    · subst hk
      simp only [put, if_true, find?]
      split <;> rfl
    · simp only [put, hk, if_false, find?, ih]
      by_cases hname : k = name
      · have hother : ¬ key = name := fun h => hk (hname.trans h.symm)
        simp [hname, hother]
      · simp [hname]

/-- One pass returns what a look-up finds and leaves what an update leaves. -/
theorem replace_eq (key : String) (value : α) (entries : Entries α) :
    replace key value entries = (find? key entries, put key value entries) := by
  induction entries with
  | nil => rfl
  | cons entry rest ih =>
    obtain ⟨k, v⟩ := entry
    by_cases hk : k = key
    · simp [replace, find?, put, hk]
    · simp [replace, find?, put, hk, ih]

/-- Of two different strings that are not ascending, the second is smaller. -/
private theorem lt_of_not_lt_of_ne {a b : String} (h : ¬ a < b) (hne : b ≠ a) : b < a := by
  rcases Decidable.em (b < a) with h' | h'
  · exact h'
  · exact absurd (String.le_antisymm (String.not_lt.1 h) (String.not_lt.1 h')) hne

/-- So does one that keeps the names in ascending order. -/
theorem find?_insertSorted (key : String) (value : α) (entries : Entries α) (name : String) :
    find? name (insertSorted key value entries) =
      if key = name then some value else find? name entries := by
  induction entries with
  | nil => rfl
  | cons entry rest ih =>
    obtain ⟨k, v⟩ := entry
    simp only [insertSorted]
    split
    · rfl
    · split
      · rename_i hk
        subst hk
        simp only [find?]
        split <;> rfl
      · rename_i hk
        simp only [find?, ih]
        by_cases hname : k = name
        · have hother : ¬ key = name := fun h => hk (hname.trans h.symm)
          simp [hname, hother]
        · simp [hname]

/-- A name has no value exactly if it is not there. -/
theorem find?_eq_none_iff {key : String} {entries : Entries α} :
    find? key entries = none ↔ key ∉ entries.keys := by
  induction entries with
  | nil => simp [find?]
  | cons entry rest ih =>
    obtain ⟨k, v⟩ := entry
    by_cases hk : k = key
    · simp [find?, hk]
    · simp [find?, hk, ih, Ne.symm hk]

theorem mem_keys_insertSorted (key : String) (value : α) (entries : Entries α) (k : String) :
    k ∈ (insertSorted key value entries).keys ↔ k = key ∨ k ∈ entries.keys := by
  induction entries with
  | nil => simp [insertSorted]
  | cons entry rest ih =>
    obtain ⟨k', v'⟩ := entry
    simp only [insertSorted]
    split
    · simp
    · split
      · rename_i h; subst h; simp
      · simp only [keys_cons, List.mem_cons, ih]
        constructor
        · rintro (h | h | h) <;> simp [h]
        · rintro (h | h | h) <;> simp [h]

theorem ascending_insertSorted (key : String) (value : α) {entries : Entries α}
    (h : entries.Ascending) : (insertSorted key value entries).Ascending := by
  induction entries with
  | nil => simp [insertSorted, Ascending]
  | cons entry rest ih =>
    obtain ⟨k, v⟩ := entry
    simp only [Ascending, keys_cons, List.pairwise_cons] at h
    simp only [insertSorted]
    split
    · rename_i hlt
      simp only [Ascending, keys_cons, List.pairwise_cons, List.mem_cons]
      refine ⟨?_, h⟩
      rintro x (hx | hx)
      · exact hx ▸ hlt
      · exact String.lt_trans hlt (h.1 x hx)
    · rename_i hlt
      split
      · rename_i hk; subst hk
        simpa only [Ascending, keys_cons, List.pairwise_cons] using h
      · rename_i hk
        simp only [Ascending, keys_cons, List.pairwise_cons]
        refine ⟨?_, ih h.2⟩
        intro x hx
        rcases (mem_keys_insertSorted key value rest x).1 hx with hx | hx
        · exact hx ▸ lt_of_not_lt_of_ne hlt hk
        · exact h.1 x hx

end Entries

end NoteQuery
