import Mathlib.Data.List.Nodup
import Mathlib.Data.List.Perm.Subperm
import RowMapping.NameSupply

/-!
# New names are free

`fresh` looks at one name more than are taken, and at one more for a keyword.  The names that it
looks at are `padded name k`, all different, and none of them but the first can be a keyword, so
one of them is free.

* `firstFree_eq_padded`  the search ends at the least number of underscores that is free;
* `blocked_fresh`        a new name is neither a keyword nor taken.
-/

namespace RowMapping
open RowMapping.Text

namespace NameSupply

/-- a name with `k` underscores behind it -/
def padded (name : String) : Nat → String
  | 0 => name
  | k + 1 => padded (name ++ "_") k

theorem padded_succ (name : String) (k : Nat) : padded name (k + 1) = padded (name ++ "_") k := rfl

theorem padded_succ_eq_append (name : String) (k : Nat) :
    padded name (k + 1) = padded name k ++ "_" := by
  induction k generalizing name with
  | zero => rfl
  | succ k ih => rw [padded_succ, ih, padded_succ]

theorem length_padded (name : String) (k : Nat) : (padded name k).length = name.length + k := by
  induction k generalizing name with
  | zero => rfl
  | succ k ih =>
    have h1 : ("_" : String).length = 1 := rfl
    rw [padded_succ, ih, String.length_append, h1]
    omega

theorem padded_injective (name : String) : Function.Injective (padded name) := by
  intro j k h
  have hlen := congrArg String.length h
  rw [length_padded, length_padded] at hlen
  omega

/-! ### keywords -/

theorem keywords_getLast_ne : ∀ w ∈ keywords, w.toList.getLast? ≠ some '_' := by decide

theorem isKeyword_append_underscore (name : String) : isKeyword (name ++ "_") = false := by
  have hlast : (name ++ "_").toList.getLast? = some '_' := by simp
  cases h : isKeyword (name ++ "_") with
  | false => rfl
  | true =>
    have hmem : name ++ "_" ∈ keywords := by simpa [isKeyword] using h
    exact absurd hlast (keywords_getLast_ne _ hmem)

/-! ### the search -/

variable (s : NameSupply)

theorem firstFree_succ (more : Nat) (name : String) :
    s.firstFree (more + 1) name =
      if s.blocked name then s.firstFree more (name ++ "_") else name := rfl

/-- the search ends at the least number of underscores that is free, as far as it looks -/
theorem firstFree_eq_padded (more : Nat) (name : String) :
    ∃ k, k ≤ more ∧ s.firstFree more name = padded name k ∧
      (∀ j, j < k → s.blocked (padded name j) = true) ∧
      (k < more → s.blocked (padded name k) = false) := by
  induction more generalizing name with
  | zero => exact ⟨0, Nat.le_refl 0, rfl, by omega, by omega⟩
  | succ more ih =>
    rw [firstFree_succ]
    cases hb : s.blocked name with
    | false => exact ⟨0, by omega, rfl, by omega, fun _ => hb⟩
    | true =>
      obtain ⟨k, hk, heq, hbefore, hfree⟩ := ih (name ++ "_")
      refine ⟨k + 1, by omega, heq, ?_, fun h => hfree (by omega)⟩
      intro j hj
      cases j with
      | zero => exact hb
      | succ j => exact hbefore j (by omega)

theorem mem_taken_of_blocked_padded {name : String} {k : Nat}
    (h : s.blocked (padded name (k + 1)) = true) : padded name (k + 1) ∈ s.taken := by
  rw [padded_succ_eq_append] at h ⊢
  unfold blocked at h
  rw [isKeyword_append_underscore, Bool.false_or] at h
  simpa [contains] using h

/-- among one padded name more than are taken, one is free -/
theorem exists_free_padded (name : String) :
    ∃ k, k ≤ s.taken.length + 1 ∧ s.blocked (padded name k) = false := by
  by_contra hall
  have hblocked : ∀ k, k ≤ s.taken.length + 1 → s.blocked (padded name k) = true := by
    intro k hk
    cases hb : s.blocked (padded name k) with
    | true => rfl
    | false => exact absurd ⟨k, hk, hb⟩ hall
  let tried := (List.range (s.taken.length + 1)).map fun k => padded name (k + 1)
  have hnodup : tried.Nodup := by
    refine List.nodup_range.map fun j k h => ?_
    have := padded_injective name h
    omega
  have hsub : tried ⊆ s.taken := by
    intro n hn
    obtain ⟨k, hk, rfl⟩ := List.mem_map.mp hn
    have hlt := List.mem_range.mp hk
    exact s.mem_taken_of_blocked_padded (hblocked (k + 1) (by omega))
  have hlen := (List.subperm_of_subset hnodup hsub).length_le
  rw [List.length_map, List.length_range] at hlen
  omega

theorem blocked_fresh (suggestion : String) : s.blocked (s.fresh suggestion) = false := by
  obtain ⟨k, hk, heq, hbefore, hfree⟩ :=
    s.firstFree_eq_padded (s.taken.length + 2) (toIdentifier suggestion)
  unfold fresh
  rw [heq]
  refine hfree ?_
  obtain ⟨j, hj, hj'⟩ := s.exists_free_padded (toIdentifier suggestion)
  by_contra hlt
  have := hbefore j (by omega)
  rw [hj'] at this
  exact Bool.false_ne_true this

theorem blocked_eq_false_iff {name : String} :
    s.blocked name = false ↔ isKeyword name = false ∧ name ∉ s.taken := by
  unfold blocked
  rw [Bool.or_eq_false_iff, contains, List.contains_eq_mem, decide_eq_false_iff_not]

theorem fresh_not_mem_taken (suggestion : String) : s.fresh suggestion ∉ s.taken :=
  (s.blocked_eq_false_iff.mp (s.blocked_fresh suggestion)).2

end NameSupply
end RowMapping
