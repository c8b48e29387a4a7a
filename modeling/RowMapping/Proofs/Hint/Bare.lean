import RowMapping.Hint.Markers
import RowMapping.Proofs.Hint.Unions

/-!
# Dropping markers

To drop all markers of a hint, it makes no difference whether the ones at its top were taken off
before: a union may have been flattened and made distinct then, but `bare` does this again.

* `same_bare`  equal hints are equal without their markers;
* `bare_unionOf`  `bare` commutes with the union of hints;
* `bare_split`  the markers at the top may be taken off first;
* `normal_bare`, `normal_split`, `nameable_bare`, `nameable_split`  what is left of a hint is normal
  and can be named, if the hint is and can.
-/

namespace RowMapping
namespace Hint

theorem bare_of_atomic {h : Hint} (ha : h.atomic = true) : bare h = h := by
  cases h <;> simp_all [bare, atomic]

theorem bare_none : bare none = none := bare_of_atomic rfl

theorem bare_union (hs : List Hint) : bare (union hs) = unionOf (hs.map bare) :=
  congrArg unionOf (bareAll_eq_map hs)

theorem bare_generic (c : ClassRef) (hs : List Hint) :
    bare (generic c hs) = generic c (hs.map bare) := congrArg (generic c) (bareAll_eq_map hs)

theorem bare_callable (ps : List Hint) (r : Hint) :
    bare (callable ps r) = callable (ps.map bare) (bare r) :=
  congrArg (callable · (bare r)) (bareAll_eq_map ps)

theorem bare_annotated (h : Hint) (ms : List Marker) : bare (annotated h ms) = bare h := rfl

theorem bare_list (hs : List Hint) : bare (list hs) = list hs := rfl

theorem bare_classVar (h : Hint) : bare (classVar h) = classVar (bare h) := rfl

theorem atomic_of_same {h k : Hint} (e : same h k = true) (ha : h.atomic = true) :
    k.atomic = true := by
  cases k with
  | union ks => obtain ⟨hs, rfl, -⟩ := same_union_iff.mp (same_symm e); exact ha
  | generic c ks => obtain ⟨hs, rfl, -⟩ := same_generic_iff.mp (same_symm e); exact ha
  | callable ps r => obtain ⟨qs, s, rfl, -⟩ := same_callable_iff.mp (same_symm e); exact ha
  | annotated k ms => obtain ⟨h, rfl, -⟩ := same_annotated_iff.mp (same_symm e); exact ha
  | list ks => obtain ⟨hs, rfl, -⟩ := same_list_iff.mp (same_symm e); exact ha
  | classVar k => obtain ⟨h, rfl, -⟩ := same_classVar_iff.mp (same_symm e); exact ha
  | _ => rfl

/-- equal hints are equal without their markers -/
theorem same_bare {h k : Hint} (e : same h k = true) : same (bare h) (bare k) = true := by
  induction h using ind generalizing k with
  | atomic h ha =>
    rw [bare_of_atomic ha, bare_of_atomic (atomic_of_same e ha)]
    exact e
  | union hs ih =>
    obtain ⟨ks, rfl, hin, hout⟩ := same_union_iff.mp e
    rw [bare_union, bare_union]
    refine same_unionOf ?_ ?_
    · intro x hx
      obtain ⟨h, hmem, rfl⟩ := List.mem_map.mp hx
      obtain ⟨k, hk, ehk⟩ := hin h hmem
      exact ⟨bare k, List.mem_map_of_mem hk, ih h hmem ehk⟩
    · intro y hy
      obtain ⟨k, hk, rfl⟩ := List.mem_map.mp hy
      obtain ⟨h, hmem, ehk⟩ := hout k hk
      exact ⟨bare h, List.mem_map_of_mem hmem, ih h hmem ehk⟩
  | generic c hs ih =>
    obtain ⟨ks, rfl, hall⟩ := same_generic_iff.mp e
    rw [bare_generic, bare_generic]
    exact same_generic_iff.mpr ⟨ks.map bare, rfl, sameAll_map_bare ih hall⟩
  | callable ps r ihp ihr =>
    obtain ⟨qs, s, rfl, hall, er⟩ := same_callable_iff.mp e
    rw [bare_callable, bare_callable]
    exact same_callable_iff.mpr
      ⟨qs.map bare, bare s, rfl, sameAll_map_bare ihp hall, ihr er⟩
  | annotated h ms ih =>
    obtain ⟨k, rfl, ek⟩ := same_annotated_iff.mp e
    rw [bare_annotated, bare_annotated]
    exact ih ek
  | list hs _ =>
    obtain ⟨ks, rfl, -⟩ := same_list_iff.mp e
    rw [bare_list, bare_list]
    exact e
  | classVar h ih =>
    obtain ⟨k, rfl, ek⟩ := same_classVar_iff.mp e
    rw [bare_classVar, bare_classVar]
    exact same_classVar_iff.mpr ⟨bare k, rfl, ih ek⟩
where
  sameAll_map_bare {hs ks : List Hint}
      (ih : ∀ h ∈ hs, ∀ {k : Hint}, same h k = true → same (bare h) (bare k) = true)
      (e : List.Forall₂ (fun h k => same h k = true) hs ks) :
      List.Forall₂ (fun h k => same h k = true) (hs.map bare) (ks.map bare) := by
    have both := (List.forall₂_and_left hs ks).mpr ⟨ih, e⟩
    rw [List.forall₂_map_left_iff, List.forall₂_map_right_iff]
    exact both.imp fun h k ⟨hih, e⟩ => hih e

/-! ### hints without markers -/

theorem normal_bare {h : Hint} (hn : h.Normal) : (bare h).Normal := by
  induction hn with
  | atomic ha =>
    rw [bare_of_atomic ha]
    exact .atomic ha
  | union htwo _ _ _ ih =>
    rw [bare_union]
    refine normal_unionOf ?_ (List.forall_mem_map.mpr ih)
    rw [Ne, List.map_eq_nil_iff]
    exact List.ne_nil_of_length_pos (Nat.lt_of_lt_of_le Nat.zero_lt_two htwo)
  | generic _ ih =>
    rw [bare_generic]
    exact .generic (List.forall_mem_map.mpr ih)
  | callable _ _ ihp ihr =>
    rw [bare_callable]
    exact .callable (List.forall_mem_map.mpr ihp) ihr
  | annotated _ ih =>
    rw [bare_annotated]
    exact ih
  | list hall _ =>
    rw [bare_list]
    exact .list hall
  | classVar _ ih =>
    rw [bare_classVar]
    exact .classVar ih

theorem nameable_bare {h : Hint} (hn : h.Nameable) : (bare h).Nameable := by
  induction h using ind with
  | atomic h ha =>
    rw [bare_of_atomic ha]
    exact hn
  | union hs ih =>
    rw [nameable_union_iff] at hn
    rw [bare_union]
    exact nameable_unionOf (List.forall_mem_map.mpr fun h hmem => ih h hmem (hn h hmem))
  | generic c hs ih =>
    rw [nameable_generic_iff] at hn
    rw [bare_generic, nameable_generic_iff]
    exact List.forall_mem_map.mpr fun h hmem => ih h hmem (hn h hmem)
  | callable ps r ihp ihr =>
    obtain ⟨hps, hr⟩ := nameable_callable_iff.mp hn
    rw [bare_callable, nameable_callable_iff]
    exact ⟨List.forall_mem_map.mpr fun p hmem => ihp p hmem (hps p hmem), ihr hr⟩
  | annotated h ms ih =>
    rw [bare_annotated]
    exact ih (nameable_annotated_iff.mp hn)
  | list hs _ =>
    rw [bare_list]
    exact hn
  | classVar h ih =>
    rw [bare_classVar, nameable_classVar_iff]
    exact ih (nameable_classVar_iff.mp hn)

theorem nameable_of_mem_map_bare {hs : List Hint} (hname : ∀ h ∈ hs, h.Nameable) :
    ∀ h ∈ hs.map bare, h.Nameable :=
  List.forall_mem_map.mpr fun h hmem => nameable_bare (hname h hmem)

/-! ### unions without markers -/

theorem members_bare_union {hs : List Hint} (hn : (union hs).Normal) :
    members (bare (union hs)) = distinct (hs.flatMap fun h => members (bare h)) := by
  obtain ⟨-, hsummands⟩ := normal_union_iff.mp hn
  have hne : hs.map bare ≠ [] := by
    rw [Ne, List.map_eq_nil_iff]
    exact hsummands.ne_nil
  have hall : ∀ k ∈ hs.map bare, k.Normal :=
    List.forall_mem_map.mpr fun h hmem => normal_bare (hsummands.normal h hmem)
  rw [bare_union, members_unionOf hne hall, List.flatMap_map]

/-- the members of a hint without its markers are those of its members, without theirs -/
theorem distinct_members_bare {h : Hint} (hn : h.Normal) (hname : h.Nameable) :
    distinct ((members h).flatMap fun k => members (bare k)) = distinct (members (bare h)) := by
  rcases union_or_members h with ⟨hs, rfl⟩ | ⟨hmembers, -⟩
  · rw [members_bare_union hn, distinct_distinct]
    rfl
  · rw [hmembers, named_of_nameable hname, List.flatMap_singleton]

/-- markers may be dropped before a union is made -/
theorem bare_unionOf {hs : List Hint} (hne : hs ≠ []) (hall : ∀ h ∈ hs, h.Normal)
    (hname : ∀ h ∈ hs, h.Nameable) : bare (unionOf hs) = unionOf (hs.map bare) := by
  have hsummands := summands_distinct hne hall
  have hnamed := nameable_of_mem_distinct hname
  have hzs : bare (unionOf hs) = unionOf ((distinct (hs.flatMap members)).map bare) := by
    unfold unionOf
    generalize distinct (hs.flatMap members) = zs at hsummands hnamed
    by_cases hone : ∃ z, zs = [z]
    · obtain ⟨z, rfl⟩ := hone
      have hz := List.mem_singleton.mpr (rfl : z = z)
      have hbare := unionOf_singleton (normal_bare (hsummands.normal z hz))
      rw [named_of_nameable (nameable_bare (hnamed z hz))] at hbare
      exact hbare.symm
    · rw [ofMembers_eq_union hone, bare_union, unionOf]
  rw [hzs, unionOf, unionOf, List.flatMap_map, List.flatMap_map,
    distinct_flatMap_distinct fun h k e y hy => same_members (same_bare e) hy, List.flatMap_assoc]
  congr 1
  exact distinct_flatMap_congr fun h hmem => distinct_members_bare (hall h hmem) (hname h hmem)

/-! ### the markers at the top -/

@[elab_as_elim]
theorem split_ind {P : Hint → Hint → Prop} (self : ∀ h, P h h)
    (annotated : ∀ h ms, P h (split h).1 → P (annotated h ms) (split h).1)
    (union : ∀ hs, (∀ h ∈ hs, P h (split h).1) →
      P (union hs) (unionOf (hs.map fun h => (split h).1))) : ∀ h, P h (split h).1 := by
  intro h
  induction h using ind with
  | union hs ih =>
    rw [split, splitAll_eq_map]
    by_cases hempty : ((hs.map split).flatMap (·.2)).isEmpty = true
    · rw [if_pos hempty]
      exact self (.union hs)
    · rw [if_neg hempty, List.map_map]
      exact union hs ih
  | annotated h ms ih =>
    rw [split]
    exact annotated h ms ih
  | atomic h ha =>
    have hself : split h = (h, []) := by cases h <;> simp_all [split, Hint.atomic]
    rw [hself]
    exact self h
  | generic c hs _ => simpa [split] using self (.generic c hs)
  | callable ps r _ _ => simpa [split] using self (.callable ps r)
  | list hs _ => simpa [split] using self (.list hs)
  | classVar h _ => simpa [split] using self (.classVar h)

/-- a hint that can be named can be named without the markers at its top -/
theorem nameable_split {h : Hint} (hname : h.Nameable) : h.split.1.Nameable := by
  induction h using split_ind with
  | self h => exact hname
  | annotated h ms ih => exact ih (nameable_annotated_iff.mp hname)
  | union hs ih =>
    rw [nameable_union_iff] at hname
    exact nameable_unionOf (List.forall_mem_map.mpr fun h hmem => ih h hmem (hname h hmem))

theorem split_spec {h : Hint} (hn : h.Normal) (hname : h.Nameable) :
    h.split.1.Normal ∧ bare h.split.1 = bare h := by
  induction h using split_ind with
  | self h => exact ⟨hn, rfl⟩
  | annotated h ms ih =>
    rw [bare_annotated]
    exact ih (normal_annotated_iff.mp hn) (nameable_annotated_iff.mp hname)
  | union hs ih =>
    rw [nameable_union_iff] at hname
    have hsummands : Summands hs := summands_members hn
    have hparts : ∀ h ∈ hs, h.split.1.Normal ∧ bare h.split.1 = bare h := by
      intro h hmem
      exact ih h hmem (hsummands.normal h hmem) (hname h hmem)
    have hne : (hs.map fun h => h.split.1) ≠ [] := by
      rw [Ne, List.map_eq_nil_iff]
      exact hsummands.ne_nil
    have hnormal : ∀ k ∈ hs.map fun h => h.split.1, k.Normal :=
      List.forall_mem_map.mpr fun h hmem => (hparts h hmem).1
    have hnameable : ∀ k ∈ hs.map fun h => h.split.1, k.Nameable :=
      List.forall_mem_map.mpr fun h hmem => nameable_split (hname h hmem)
    refine ⟨normal_unionOf hne hnormal, ?_⟩
    rw [bare_unionOf hne hnormal hnameable, List.map_map, bare_union]
    congr 1
    exact List.map_congr_left fun h hmem => (hparts h hmem).2

section
variable {h : Hint} (hn : h.Normal) (hname : h.Nameable)
include hn hname

theorem normal_split : h.split.1.Normal := (split_spec hn hname).1

/-- to drop all markers, the ones at the top may be taken off first -/
theorem bare_split : bare h.split.1 = bare h := (split_spec hn hname).2

end

end Hint
end RowMapping
