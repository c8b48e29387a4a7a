import Mathlib.Data.List.Induction
import Mathlib.Data.List.Nodup

/-!
# First occurrences

`List.eraseDups` keeps the first of equal members.  Loops that go through a list and remember what
they have seen keep these members, in this order: one more member is added exactly if it is new.
-/

namespace RowMapping
variable {α : Type} [BEq α] [LawfulBEq α]

theorem eraseDups_concat_of_mem {l : List α} {a : α} (h : a ∈ l) :
    (l ++ [a]).eraseDups = l.eraseDups := by
  have hnone : [a].removeAll l = [] := by simp [List.removeAll, h]
  rw [List.eraseDups_append, hnone, List.eraseDups_nil, List.append_nil]

theorem eraseDups_concat_of_not_mem {l : List α} {a : α} (h : a ∉ l) :
    (l ++ [a]).eraseDups = l.eraseDups ++ [a] := by
  have hself : [a].removeAll l = [a] := by simp [List.removeAll, h]
  have hone : [a].eraseDups = [a] := by simp [List.eraseDups_cons]
  rw [List.eraseDups_append, hself, hone]

theorem nodup_eraseDups (l : List α) : l.eraseDups.Nodup := by
  induction l using List.reverseRecOn with
  | nil => exact List.nodup_nil
  | append_singleton l a ih =>
    by_cases h : a ∈ l
    · rw [eraseDups_concat_of_mem h]
      exact ih
    · rw [eraseDups_concat_of_not_mem h, ← List.concat_eq_append]
      exact ih.concat (mt List.mem_eraseDups.mp h)

/-- The first occurrences in two lists are those in the first and those in the second that are
not in the first. -/
theorem eraseDups_append_eq (l k : List α) :
    (l ++ k).eraseDups = l.eraseDups ++ k.eraseDups.filter fun a => !l.contains a := by
  induction k using List.reverseRecOn with
  | nil => rw [List.append_nil, List.eraseDups_nil, List.filter_nil, List.append_nil]
  | append_singleton k a ih =>
    rw [← List.append_assoc]
    by_cases hk : a ∈ k
    · rw [eraseDups_concat_of_mem (List.mem_append_right l hk), eraseDups_concat_of_mem hk, ih]
    · rw [eraseDups_concat_of_not_mem hk, List.filter_append, ← List.append_assoc, ← ih]
      by_cases hl : a ∈ l
      · rw [eraseDups_concat_of_mem (List.mem_append_left k hl)]
        simp [hl]
      · have hnew : a ∉ l ++ k := fun hmem => (List.mem_append.mp hmem).elim hl hk
        rw [eraseDups_concat_of_not_mem hnew]
        simp [hl]

end RowMapping
