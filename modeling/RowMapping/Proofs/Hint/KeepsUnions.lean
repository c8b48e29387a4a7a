import RowMapping.Proofs.Hint.Bare

/-!
# Unions under markers

Dropping the markers of a hint may change its unions: below an annotated layer stands a union that
becomes part of the one around it, a `None` that makes it nullable, or a hint that is already a
member.  `KeepsUnions` says that none of this happens in a hint, and then its name is the same with
and without its markers.

* `typeName_bare`  the name of a hint that keeps its unions.
-/

namespace RowMapping
open RowMapping.TypeName (isNone)

namespace TypeName

/-- a type with `None` beside it -/
def optional (t : TypeName) : TypeName := { t with nullable := true }

end TypeName

namespace Hint

/-! ### members other than `None` -/

theorem nonNone_distinct (hs : List Hint) : nonNone (distinct hs) = distinct (nonNone hs) := by
  refine filter_distinct (fun h k e => ?_) hs
  congr 1
  rw [Bool.eq_iff_iff, isNone_iff, isNone_iff]
  constructor
  · rintro rfl
    exact none_same_iff.mp e
  · rintro rfl
    exact none_same_iff.mp (same_symm e)

theorem any_isNone_iff {hs : List Hint} : hs.any isNone = true ↔ none ∈ hs := by
  simp [isNone_iff]

variable {hs : List Hint} {h : Hint}

theorem none_mem_distinct : none ∈ distinct hs ↔ none ∈ hs := by
  constructor
  · exact fun hmem => (distinct_sublist hs).mem hmem
  · intro hmem
    obtain ⟨k, hk, e⟩ := exists_same_distinct hmem (same_refl nameable_none)
    exact none_same_iff.mp (same_symm e) ▸ hk

/-- different members are at most one `None` -/
theorem length_le_nonNone (hp : Different hs) :
    hs.length ≤ (nonNone hs).length + 1 := by
  induction hs with
  | nil => exact Nat.zero_le _
  | cons h hs ih =>
    obtain ⟨hfirst, hrest⟩ := List.pairwise_cons.mp hp
    by_cases hh : h = none
    · subst hh
      have hall : nonNone hs = hs := by
        refine List.filter_eq_self.mpr fun k hk => ?_
        have hne : k ≠ none := by
          intro hkn
          exact absurd ((none_same_iff.mpr hkn).symm.trans (hfirst k hk)) (by decide)
        rw [isNone_eq_false_iff.mpr hne, Bool.not_false]
      rw [nonNone_cons_none, hall]
      exact Nat.le_refl _
    · rw [nonNone_cons_of_ne hh]
      exact Nat.succ_le_succ (ih hrest)

theorem length_nonNone_lt (hnone : none ∈ hs) : (nonNone hs).length < hs.length := by
  rw [nonNone, List.length_filter_lt_length_iff_exists]
  exact ⟨none, hnone, by decide⟩

theorem eq_pair_of_nonNone (htwo : 2 ≤ hs.length) (hp : Different hs)
    (hone : nonNone hs = [h]) : hs = [h, none] ∨ hs = [none, h] := by
  have hlength := length_le_nonNone hp
  rw [hone] at hlength
  match hs, htwo with
  | [k, l], _ =>
    by_cases hk : k = none
    · subst hk
      by_cases hl : l = none
      · subst hl
        cases hone
      · rw [nonNone_cons_none, nonNone_cons_of_ne hl] at hone
        cases hone
        exact .inr rfl
    · rw [nonNone_cons_of_ne hk] at hone
      by_cases hl : l = none
      · subst hl
        cases hone
        exact .inl rfl
      · rw [nonNone_cons_of_ne hl] at hone
        cases hone
  | k :: l :: m :: rest, _ => simp at hlength

theorem none_mem_of_nonNone (htwo : 2 ≤ hs.length) (hp : Different hs) (hone : nonNone hs = [h]) :
    none ∈ hs := by
  rcases eq_pair_of_nonNone htwo hp hone with rfl | rfl
  · exact List.mem_cons_of_mem _ List.mem_cons_self
  · exact List.mem_cons_self

theorem nonNone_members_ne_nil (hn : h.Normal) (hname : h.Nameable) (hne : h ≠ none) :
    nonNone (members h) ≠ [] := by
  rcases union_or_members h with ⟨hs, rfl⟩ | ⟨hmembers, -⟩
  · have hlength := length_le_nonNone (summands_members hn).different
    have htwo : 2 ≤ (members (union hs)).length := (normal_union_iff.mp hn).1
    refine List.ne_nil_of_length_pos ?_
    omega
  · rw [hmembers, named_of_nameable hname]
    exact List.ne_nil_of_mem (mem_nonNone.mpr ⟨List.mem_cons_self, hne⟩)

/-! ### the names of unions -/

theorem typeName_ofMembers (htwo : 2 ≤ hs.length) (hname : ∀ h ∈ hs, h.Nameable) :
    (ofMembers hs).typeName = .ofMembers (hs.any isNone) ((nonNone hs).map typeName) := by
  match hs, htwo with
  | h :: k :: rest, _ => exact typeName_union hname

theorem optional_ofMembers (b : Bool) (ts : List TypeName) :
    (TypeName.ofMembers b ts).optional = .ofMembers true ts := by
  unfold TypeName.ofMembers
  split <;> rfl

theorem optional_typeName (hname : h.Nameable) (hne : h ≠ none) :
    h.typeName.optional = .ofMembers true ((nonNone (members h)).map typeName) := by
  rcases union_or_members h with ⟨hs, rfl⟩ | ⟨hmembers, -⟩
  · rw [typeName_union (nameable_union_iff.mp hname), optional_ofMembers]
    rfl
  · rw [hmembers, named_of_nameable hname, nonNone_cons_of_ne hne]
    rfl

/-- a hint and `None`, in either order, make the name of the hint with `None` beside it -/
theorem typeName_unionOf_none {ks : List Hint} (hn : h.Normal) (hname : h.Nameable)
    (hne : h ≠ none) (hks : ks = [h, none] ∨ ks = [none, h]) :
    (unionOf ks).typeName = h.typeName.optional := by
  have hnonNone : nonNone (ks.flatMap members) = nonNone (members h) := by
    rcases hks with rfl | rfl
    · show nonNone (members h ++ [none]) = nonNone (members h)
      rw [nonNone_append]
      exact List.append_nil _
    · show nonNone (none :: (members h ++ [])) = nonNone (members h)
      rw [nonNone_cons_none, List.append_nil]
  have hkeep : nonNone (distinct (ks.flatMap members)) = nonNone (members h) := by
    rw [nonNone_distinct, hnonNone, ← nonNone_distinct,
      distinct_eq_self (summands_members hn).different]
  have hnone : none ∈ distinct (ks.flatMap members) := by
    rw [none_mem_distinct, List.mem_flatMap]
    refine ⟨none, ?_, List.mem_cons_self⟩
    rcases hks with rfl | rfl
    · exact List.mem_cons_of_mem _ List.mem_cons_self
    · exact List.mem_cons_self
  have hall : ∀ k ∈ ks, k.Nameable := by
    rcases hks with rfl | rfl
    · simpa using ⟨hname, nameable_none⟩
    · simpa using ⟨nameable_none, hname⟩
  have htwo : 2 ≤ (distinct (ks.flatMap members)).length := by
    have hpos := List.length_pos_iff.mpr (nonNone_members_ne_nil hn hname hne)
    have hlt := length_nonNone_lt hnone
    rw [hkeep] at hlt
    omega
  rw [unionOf, typeName_ofMembers htwo (nameable_of_mem_distinct hall), hkeep,
    any_isNone_iff.mpr hnone, optional_typeName hname hne]

/-! ### hints that keep their unions -/

/-- Hints that stay what they are among each other when their markers are dropped: none becomes a
union, and no two become equal. -/
structure KeptApart (hs : List Hint) : Prop where
  flat : ∀ h ∈ hs, (bare h).Flat
  different : Different (hs.map bare)

/-- Members of a union that are kept when their markers are dropped: none becomes `None`, and
unless there is only one beside `None`, they are kept apart. -/
structure KeepsMembers (hs : List Hint) : Prop where
  keeps_some : ∀ h ∈ hs, bare h = none → h = none
  keeps_apart : (nonNone hs).length = 1 ∨ KeptApart hs

/-- a hint whose unions are kept when its markers are dropped -/
inductive KeepsUnions : Hint → Prop
  | atomic {h : Hint} (ha : h.atomic = true) : KeepsUnions h
  | union {hs : List Hint} (hmembers : KeepsMembers hs) (hall : ∀ h ∈ hs, h.KeepsUnions) :
      KeepsUnions (union hs)
  | generic {c : ClassRef} {hs : List Hint} (hall : ∀ h ∈ hs, h.KeepsUnions) :
      KeepsUnions (generic c hs)
  | callable {ps : List Hint} {r : Hint} (hall : ∀ p ∈ ps, p.KeepsUnions) (hr : r.KeepsUnions) :
      KeepsUnions (callable ps r)
  | annotated {h : Hint} {ms : List Marker} (hk : h.KeepsUnions) : KeepsUnions (annotated h ms)
  | list (hs : List Hint) : KeepsUnions (list hs)
  | classVar {h : Hint} (hk : h.KeepsUnions) : KeepsUnions (classVar h)

theorem nonNone_map_bare (hsome : ∀ h ∈ hs, bare h = none → h = none) :
    nonNone (hs.map bare) = (nonNone hs).map bare := by
  induction hs with
  | nil => rfl
  | cons h hs ih =>
    obtain ⟨hfirst, hrest⟩ := List.forall_mem_cons.mp hsome
    rw [List.map_cons]
    by_cases hh : h = none
    · subst hh
      exact ih hrest
    · rw [nonNone_cons_of_ne hh, nonNone_cons_of_ne fun hb => hh (hfirst hb), ih hrest,
        List.map_cons]

theorem none_mem_map_bare (hsome : ∀ h ∈ hs, bare h = none → h = none) :
    none ∈ hs.map bare ↔ none ∈ hs := by
  rw [List.mem_map]
  constructor
  · rintro ⟨h, hmem, hb⟩
    exact hsome h hmem hb ▸ hmem
  · exact fun hmem => ⟨none, hmem, bare_none⟩

theorem typeName_bare_of_keptApart (hsome : ∀ h ∈ hs, bare h = none → h = none)
    (hapart : KeptApart hs) (hn : (union hs).Normal) (hname : (union hs).Nameable) :
    (bare (union hs)).typeName =
      .ofMembers (hs.any isNone) ((nonNone hs).map fun h => (bare h).typeName) := by
  obtain ⟨htwo, -⟩ := normal_union_iff.mp hn
  have hnone : (hs.map bare).any isNone = hs.any isNone := by
    rw [Bool.eq_iff_iff, any_isNone_iff, any_isNone_iff, none_mem_map_bare hsome]
  have hall : ∀ k ∈ hs.map bare, k.Nameable :=
    nameable_of_mem_map_bare (nameable_union_iff.mp hname)
  rw [bare_union, unionOf_of_flat (by rwa [List.length_map]) hapart.different
    (List.forall_mem_map.mpr hapart.flat), typeName_union hall, hnone]
  congr 1
  rw [nonNone_map_bare hsome, List.map_map]
  rfl

section Beside

variable (hone : nonNone hs = [h]) (hn : (union hs).Normal)
include hone hn

theorem map_bare_of_nonNone :
    hs.map bare = [bare h, none] ∨ hs.map bare = [none, bare h] := by
  obtain ⟨htwo, hsummands⟩ := normal_union_iff.mp hn
  rcases eq_pair_of_nonNone htwo hsummands.different hone with rfl | rfl
  · exact .inl (by rw [List.map_cons, List.map_singleton, bare_none])
  · exact .inr (by rw [List.map_cons, List.map_singleton, bare_none])

theorem bare_eq_none_of_nonNone (hbare : bare h = none) : bare (union hs) = none := by
  have hmap : hs.map bare = [none, none] := by
    rcases map_bare_of_nonNone hone hn with hpair | hpair
    · rw [hpair, hbare]
    · rw [hpair, hbare]
  rw [bare_union, hmap]
  simp [unionOf, members, named, distinct, ofMembers, same]

theorem typeName_union_of_nonNone (hname : (union hs).Nameable) :
    (union hs).typeName = h.typeName.optional := by
  obtain ⟨htwo, hsummands⟩ := normal_union_iff.mp hn
  have hany : hs.any isNone = true :=
    any_isNone_iff.mpr (none_mem_of_nonNone htwo hsummands.different hone)
  rw [typeName_union (nameable_union_iff.mp hname), hany, hone]
  rfl

theorem typeName_bare_of_nonNone (hname : (union hs).Nameable) (hbare : bare h ≠ none) :
    (bare (union hs)).typeName = (bare h).typeName.optional := by
  obtain ⟨-, hsummands⟩ := normal_union_iff.mp hn
  obtain ⟨hmem, -⟩ := mem_nonNone.mp (hone ▸ List.mem_singleton_self h)
  rw [bare_union]
  exact typeName_unionOf_none (normal_bare (hsummands.normal h hmem))
    (nameable_bare (nameable_union_iff.mp hname h hmem)) hbare (map_bare_of_nonNone hone hn)

end Beside

/-- a union that keeps its members keeps its name, if its members keep theirs -/
theorem typeName_bare_union (hmembers : KeepsMembers hs) (hn : (union hs).Normal)
    (hname : (union hs).Nameable) (ih : ∀ h ∈ hs, (bare h).typeName = h.typeName) :
    (bare (union hs)).typeName = (union hs).typeName := by
  rcases hmembers.keeps_apart with hone | hapart
  · -- the only member beside `None` may become a union, as this is nullable then
    obtain ⟨h, hone⟩ := List.length_eq_one_iff.mp hone
    obtain ⟨hmem, hne⟩ := mem_nonNone.mp (hone ▸ List.mem_singleton_self h)
    have hbare : bare h ≠ none := fun hb => hne (hmembers.keeps_some h hmem hb)
    rw [typeName_bare_of_nonNone hone hn hname hbare, typeName_union_of_nonNone hone hn hname,
      ih h hmem]
  · rw [typeName_bare_of_keptApart hmembers.keeps_some hapart hn hname,
      typeName_union (nameable_union_iff.mp hname)]
    congr 1
    exact List.map_congr_left fun h hmem => ih h (mem_nonNone.mp hmem).1

theorem map_typeName_map_bare (h : ∀ h ∈ hs, (bare h).typeName = h.typeName) :
    (hs.map bare).map typeName = hs.map typeName := by
  rw [List.map_map]
  exact List.map_congr_left h

/-- the name of a hint that keeps its unions is the same without its markers -/
theorem typeName_bare (hk : h.KeepsUnions) (hn : h.Normal) (hname : h.Nameable) :
    (bare h).typeName = h.typeName := by
  induction hk with
  | atomic ha => rw [bare_of_atomic ha]
  | union hmembers _ ih =>
    refine typeName_bare_union hmembers hn hname fun h hmem => ?_
    exact ih h hmem ((summands_members hn).normal h hmem) (nameable_union_iff.mp hname h hmem)
  | @generic c hs _ ih =>
    rw [nameable_generic_iff] at hname
    rw [normal_generic_iff] at hn
    rw [bare_generic, typeName_generic (nameable_of_mem_map_bare hname), typeName_generic hname,
      map_typeName_map_bare fun h hmem => ih h hmem (hn h hmem) (hname h hmem)]
  | @callable ps r _ _ ihp ihr =>
    obtain ⟨hps, hr⟩ := nameable_callable_iff.mp hname
    obtain ⟨hnps, hnr⟩ := normal_callable_iff.mp hn
    rw [bare_callable, typeName_callable (nameable_of_mem_map_bare hps) (nameable_bare hr),
      typeName_callable hps hr, ihr hnr hr,
      map_typeName_map_bare fun p hmem => ihp p hmem (hnps p hmem) (hps p hmem)]
  | annotated _ ih =>
    rw [bare_annotated, typeName_annotated]
    exact ih (normal_annotated_iff.mp hn) (nameable_annotated_iff.mp hname)
  | list hs => rw [bare_list]
  | classVar _ ih =>
    have hname := nameable_classVar_iff.mp hname
    rw [bare_classVar, typeName_classVar (nameable_bare hname), typeName_classVar hname,
      ih (normal_classVar_iff.mp hn) hname]

end Hint
end RowMapping
