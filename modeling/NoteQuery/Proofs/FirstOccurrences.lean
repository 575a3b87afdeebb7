import Mathlib.Data.Finset.Card
import Mathlib.Data.List.Basic

/-!
# Names in the order of first occurrence

`List.eraseDups` leaves a name where it stands first and drops it further on. So the names that are
left are different, as many as there are different names at all, and in the order of their first
places.
-/

namespace NoteQuery

variable {names others : List String}

/-- A last name is left if it is new. -/
theorem eraseDups_concat (names : List String) (name : String) :
    (names ++ [name]).eraseDups =
      if name ∈ names then names.eraseDups else names.eraseDups ++ [name] := by
  rw [List.eraseDups_append]
  split
  · rename_i hmem
    have hnone : List.removeAll [name] names = [] := by simp [List.removeAll, hmem]
    rw [hnone, List.eraseDups_nil, List.append_nil]
  · rename_i hnew
    have hone : List.removeAll [name] names = [name] := by simp [List.removeAll, hnew]
    rw [hone]
    rfl

theorem nodup_eraseDups (names : List String) : names.eraseDups.Nodup := by
  induction names using List.reverseRecOn with
  | nil => exact List.nodup_nil
  | append_singleton names name ih =>
    rw [eraseDups_concat]
    split
    · exact ih
    · rename_i hnew
      rw [← List.concat_eq_append]
      exact ih.concat (List.mem_eraseDups.not.2 hnew)

theorem length_eraseDups (names : List String) : names.eraseDups.length = names.toFinset.card := by
  have hset : names.eraseDups.toFinset = names.toFinset := by
    ext name
    rw [List.mem_toFinset, List.mem_toFinset, List.mem_eraseDups]
  rw [← hset, List.toFinset_card_of_nodup (nodup_eraseDups names)]

/-- The names that are left stand in the order of their first places. -/
theorem pairwise_idxOf_eraseDups (names : List String) :
    names.eraseDups.Pairwise (fun a b => names.idxOf a < names.idxOf b) := by
  induction names using List.reverseRecOn with
  | nil => exact List.Pairwise.nil
  | append_singleton names name ih =>
    -- the places of names that have been met do not change
    have hplace : ∀ a ∈ names.eraseDups, (names ++ [name]).idxOf a = names.idxOf a := by
      intro a ha
      exact List.idxOf_append_of_mem (List.mem_eraseDups.1 ha)
    have hbefore : names.eraseDups.Pairwise
        (fun a b => (names ++ [name]).idxOf a < (names ++ [name]).idxOf b) := by
      refine ih.imp_of_mem (fun ha hb hlt => ?_)
      rwa [hplace _ ha, hplace _ hb]
    rw [eraseDups_concat]
    split
    · exact hbefore
    · rename_i hnew
      refine List.pairwise_append.2 ⟨hbefore, List.pairwise_singleton _ _, fun a ha b hb => ?_⟩
      obtain rfl := List.mem_singleton.1 hb
      rw [hplace a ha, List.idxOf_append_of_notMem hnew]
      have hlt := List.idxOf_lt_length_iff.2 (List.mem_eraseDups.1 ha)
      omega

end NoteQuery
