import Mathlib.Algebra.Order.BigOperators.Group.List
import Mathlib.Algebra.Order.Ring.Nat
import RowMapping.Proofs.Hint.KeepsUnions

/-!
# The weight of a name

The weight of a type name counts its arguments at every depth, a nullable argument twice.  What
dropping markers does to a union shows in it: a union that becomes part of another one no longer
counts itself, a `None` that makes the union nullable no longer counts among its members, and an
equal member is gone.  So the weight of a hint's name never grows, and it is the same only where
the union keeps its members.

* `lighter_union`  a union gets no heavier if none of its members does;
* `weight_lt_or_keptApart`  it gets lighter, or its members are kept apart.
-/

namespace RowMapping
open RowMapping.TypeName (isNone)

namespace TypeName

/-! ### weights of type names -/

mutual

/-- the arguments of a type at every depth, nullable ones counted twice -/
def weight : TypeName → Nat
  | ⟨_, _, args, _, _⟩ => weightAll args

def weightAll : List TypeName → Nat
  | [] => 0
  | t :: ts => 1 + t.nullable.toNat + weight t + weightAll ts

end

/-- what a type weighs as an argument -/
def load (t : TypeName) : Nat := 1 + t.nullable.toNat + t.weight

theorem weightAll_eq (ts : List TypeName) : weightAll ts = (ts.map load).sum := by
  induction ts with
  | nil => rw [weightAll, List.map_nil, List.sum_nil]
  | cons t ts ih => rw [weightAll, ih, List.map_cons, List.sum_cons, load]

theorem weight_eq (t : TypeName) : t.weight = (t.args.map load).sum := by
  cases t
  rw [weight, weightAll_eq]

theorem load_pos (t : TypeName) : 0 < t.load := by
  unfold load
  omega

theorem weight_lt_load (t : TypeName) : t.weight < t.load := by
  unfold load
  omega

theorem load_le (t : TypeName) : t.load ≤ 2 + t.weight := by
  unfold load
  have := t.nullable.toNat_le
  omega

theorem weight_optional (t : TypeName) : t.optional.weight = t.weight := by
  rw [weight_eq, weight_eq]
  rfl

theorem load_optional (t : TypeName) : t.optional.load = 2 + t.weight := by
  rw [load, weight_optional]
  rfl

theorem ofMembers_of_length {b : Bool} {ts : List TypeName} (h : ts.length ≠ 1) :
    ofMembers b ts = { name := "Union", module := "typing", args := ts, nullable := b } := by
  unfold ofMembers
  split
  · simp at h
  · rfl

theorem weight_ofMembers {b : Bool} {ts : List TypeName} (h : ts.length ≠ 1) :
    (ofMembers b ts).weight = (ts.map load).sum := by
  rw [ofMembers_of_length h, weight_eq]

theorem nullable_ofMembers (b : Bool) (ts : List TypeName) : (ofMembers b ts).nullable = b := by
  unfold ofMembers
  split <;> rfl

/-- a union, or a nullable type, weighs more than its members do -/
theorem sum_lt_load_ofMembers {b : Bool} {ts : List TypeName}
    (hb : ts.length = 1 → b = true) (hts : ∀ t ∈ ts, t.nullable = false) :
    (ts.map load).sum < (ofMembers b ts).load := by
  by_cases hone : ts.length = 1
  · obtain ⟨t, rfl⟩ := List.length_eq_one_iff.mp hone
    obtain rfl := hb hone
    have hload : t.load = 1 + t.weight := by
      rw [load, hts t List.mem_cons_self]
      rfl
    show t.load + 0 < t.optional.load
    rw [load_optional, hload]
    omega
  · rw [← weight_ofMembers (b := b) hone]
    exact weight_lt_load _

end TypeName

namespace Hint

variable {hs ks : List Hint} {h : Hint}

/-! ### weights of members -/

/-- what the names of hints other than `None` weigh as arguments -/
def total (hs : List Hint) : Nat := ((nonNone hs).map fun h => h.typeName.load).sum

theorem total_append (hs ks : List Hint) : total (hs ++ ks) = total hs + total ks := by
  rw [total, nonNone_append, List.map_append, List.sum_append]
  rfl

theorem total_flatMap (f : Hint → List Hint) (hs : List Hint) :
    total (hs.flatMap f) = (hs.map fun h => total (f h)).sum := by
  induction hs with
  | nil => rfl
  | cons h hs ih => rw [List.flatMap_cons, total_append, ih, List.map_cons, List.sum_cons]

theorem total_eq_sum (hs : List Hint) : total hs = (hs.map fun h => total [h]).sum := by
  rw [← total_flatMap, List.flatMap_singleton']

theorem total_singleton (hne : h ≠ none) : total [h] = h.typeName.load := by
  rw [total, nonNone_cons_of_ne hne]
  exact Nat.add_zero _

theorem sum_le_of_sublist {ts us : List Nat} (h : ts.Sublist us) : ts.sum ≤ us.sum :=
  h.sum_le_sum fun _ _ => Nat.zero_le _

theorem total_distinct_le (hs : List Hint) : total (distinct hs) ≤ total hs :=
  sum_le_of_sublist (((distinct_sublist hs).filter _).map _)

/-- hints that weigh the same once they are made distinct were different, `None` aside -/
theorem nonNone_distinct_of_total (h : total (distinct hs) = total hs) :
    nonNone (distinct hs) = nonNone hs := by
  have hsub : (nonNone (distinct hs)).Sublist (nonNone hs) := (distinct_sublist hs).filter _
  unfold total at h
  generalize nonNone (distinct hs) = as at h hsub
  generalize nonNone hs = bs at h hsub
  induction hsub with
  | slnil => rfl
  | cons b hrest _ =>
    have hle := sum_le_of_sublist (hrest.map fun h => h.typeName.load)
    have hpos := b.typeName.load_pos
    rw [List.map_cons, List.sum_cons] at h
    omega
  | cons_cons b _ ih =>
    rw [List.map_cons, List.map_cons, List.sum_cons, List.sum_cons] at h
    rw [ih (Nat.add_left_cancel h)]

/-! ### members of hints without markers -/

theorem nullable_of_atomic (ha : h.atomic = true) : h.typeName.nullable = false := by
  cases h with
  | literal vs =>
    unfold typeName
    rw [TypeName.ofHint]
    cases vs.mapM TypeName.ofScalar with
    | error e => rfl
    | ok ts => rfl
  | union _ | generic _ _ | callable _ _ | annotated _ _ | list _ | classVar _ => cases ha
  | _ => simp [typeName, TypeName.ofHint, Except.toOption] <;> rfl

theorem nullable_of_mem_members {k : Hint} (hn : h.Normal) (hname : h.Nameable)
    (hk : k ∈ members (bare h)) : k.typeName.nullable = false := by
  induction h using ind generalizing k with
  | atomic h ha =>
    have hself : members h = [h] := by
      rcases union_or_members h with ⟨hs, rfl⟩ | ⟨hmembers, -⟩
      · cases ha
      · rw [hmembers, named_of_nameable hname]
    rw [bare_of_atomic ha, hself, List.mem_singleton] at hk
    exact hk ▸ nullable_of_atomic ha
  | union hs ih =>
    obtain ⟨-, hsummands⟩ := normal_union_iff.mp hn
    rw [members_bare_union hn] at hk
    obtain ⟨h, hmem, hk⟩ := List.mem_flatMap.mp ((distinct_sublist _).mem hk)
    exact ih h hmem (hsummands.normal h hmem) (nameable_union_iff.mp hname h hmem) hk
  | generic c hs _ =>
    rw [nameable_generic_iff] at hname
    rw [bare_generic] at hk
    obtain rfl : k = generic c (hs.map bare) := List.mem_singleton.mp hk
    rw [typeName_generic (nameable_of_mem_map_bare hname)]
    rfl
  | callable ps r _ _ =>
    obtain ⟨hps, hr⟩ := nameable_callable_iff.mp hname
    rw [bare_callable] at hk
    obtain rfl : k = callable (ps.map bare) (bare r) := List.mem_singleton.mp hk
    rw [typeName_callable (nameable_of_mem_map_bare hps) (nameable_bare hr)]
    rfl
  | annotated h ms ih =>
    rw [bare_annotated] at hk
    exact ih (normal_annotated_iff.mp hn) (nameable_annotated_iff.mp hname) hk
  | list hs _ =>
    rw [bare_list] at hk
    obtain rfl : k = list hs := List.mem_singleton.mp hk
    rw [typeName_list (nameable_list_iff.mp hname)]
    rfl
  | classVar h _ =>
    rw [bare_classVar] at hk
    obtain rfl : k = classVar (bare h) := List.mem_singleton.mp hk
    rw [typeName_classVar (nameable_bare (nameable_classVar_iff.mp hname))]

/-- A hint without markers weighs more than its members do, unless it is its own only member. -/
theorem flat_or_total_lt (hn : h.Normal) (hname : h.Nameable) :
    ((bare h).Flat ∧ bare h ≠ none) ∨ total (members (bare h)) < (bare h).typeName.load := by
  have hnormal := normal_bare hn
  have hnames := nameable_bare hname
  have hnull : ∀ k ∈ members (bare h), k.typeName.nullable = false := fun k hk =>
    nullable_of_mem_members hn hname hk
  generalize bare h = l at hnormal hnames hnull ⊢
  rcases union_or_members l with ⟨ks, rfl⟩ | ⟨hmembers, hflat⟩
  · refine .inr ?_
    obtain ⟨htwo, hsummands⟩ := normal_union_iff.mp hnormal
    have hone : ((nonNone ks).map typeName).length = 1 → ks.any isNone = true := by
      intro hone
      rw [List.length_map] at hone
      obtain ⟨k, hone⟩ := List.length_eq_one_iff.mp hone
      exact any_isNone_iff.mpr (none_mem_of_nonNone htwo hsummands.different hone)
    have hlt := TypeName.sum_lt_load_ofMembers hone
      (List.forall_mem_map.mpr fun k hk => hnull k (mem_nonNone.mp hk).1)
    rw [typeName_union (nameable_union_iff.mp hnames)]
    rwa [List.map_map] at hlt
  · by_cases hnone : l = none
    · subst hnone
      exact .inr (TypeName.load_pos _)
    · rw [named_of_nameable hnames] at hflat
      exact .inl ⟨hflat, hnone⟩

theorem total_members_le (hn : h.Normal) (hname : h.Nameable) :
    total (members (bare h)) ≤ (bare h).typeName.load := by
  rcases flat_or_total_lt hn hname with ⟨hflat, hne⟩ | hlt
  · rw [hflat, total_singleton hne]
  · exact Nat.le_of_lt hlt

theorem weight_le_total (hn : h.Normal) (hname : h.Nameable) :
    h.typeName.weight ≤ total (members h) := by
  rcases union_or_members h with ⟨hs, rfl⟩ | ⟨hmembers, -⟩
  · have hnames := nameable_union_iff.mp hname
    by_cases hone : (nonNone hs).length = 1
    · obtain ⟨k, hone⟩ := List.length_eq_one_iff.mp hone
      rw [typeName_union_of_nonNone hone hn hname, TypeName.weight_optional]
      show _ ≤ ((nonNone hs).map fun h => h.typeName.load).sum
      rw [hone]
      exact Nat.le_of_lt k.typeName.weight_lt_load
    · have hmap : ((nonNone hs).map typeName).length ≠ 1 := by rwa [List.length_map]
      rw [typeName_union hnames, TypeName.weight_ofMembers hmap, List.map_map]
      exact Nat.le_refl _
  · rw [hmembers, named_of_nameable hname]
    by_cases hne : h = none
    · subst hne
      exact Nat.zero_le _
    · rw [total_singleton hne]
      exact Nat.le_of_lt h.typeName.weight_lt_load

/-! ### unions -/

/-- A hint whose name is no heavier without its markers, neither by itself nor as an argument. -/
structure Lighter (h : Hint) : Prop where
  weight : (bare h).typeName.weight ≤ h.typeName.weight
  load : (bare h).typeName.load ≤ h.typeName.load

theorem lighter_of_weight (hweight : (bare h).typeName.weight ≤ h.typeName.weight)
    (hnullable : (bare h).typeName.nullable = h.typeName.nullable) : Lighter h := by
  refine ⟨hweight, ?_⟩
  rw [TypeName.load, TypeName.load, hnullable]
  omega

theorem total_members_le_total (hn : h.Normal) (hname : h.Nameable) (hl : Lighter h) :
    total (members (bare h)) ≤ total [h] := by
  by_cases hne : h = none
  · subst hne
    exact Nat.zero_le _
  · rw [total_singleton hne]
    exact Nat.le_trans (total_members_le hn hname) hl.load

/-- hints that differ without their markers, `None` aside, differ all -/
theorem different_map_bare (hp : Different hs) (hsome : ∀ h ∈ hs, bare h = none → h = none)
    (hpairs : Different (nonNone (hs.map bare))) : Different (hs.map bare) := by
  unfold Different at hpairs ⊢
  rw [nonNone_map_bare hsome, List.pairwise_map, nonNone, List.pairwise_filter] at hpairs
  rw [List.pairwise_map]
  refine (hpairs.and hp).imp_of_mem ?_
  rintro h k hh hk ⟨hbare, hhk⟩
  by_cases hh' : h = none
  · subst hh'
    rw [bare_none, Bool.eq_false_iff]
    intro e
    rw [none_same_iff.mpr (hsome k hk (none_same_iff.mp e))] at hhk
    cases hhk
  by_cases hk' : k = none
  · subst hk'
    rw [bare_none, Bool.eq_false_iff]
    intro e
    exact hh' (hsome h hh (none_same_iff.mp (same_symm e)))
  exact hbare (by rw [isNone_eq_false_iff.mpr hh', Bool.not_false])
    (by rw [isNone_eq_false_iff.mpr hk', Bool.not_false])

section Union

variable (hn : (union hs).Normal) (hname : (union hs).Nameable) (hl : ∀ h ∈ hs, Lighter h)
include hn hname hl

theorem total_le_total : total (members (bare (union hs))) ≤ total hs := by
  obtain ⟨-, hsummands⟩ := normal_union_iff.mp hn
  rw [members_bare_union hn]
  refine Nat.le_trans (total_distinct_le _) ?_
  rw [total_flatMap, total_eq_sum hs]
  exact List.sum_le_sum fun h hmem => total_members_le_total (hsummands.normal h hmem)
    (nameable_union_iff.mp hname h hmem) (hl h hmem)

theorem keptApart_of_total (h : total (members (bare (union hs))) = total hs) :
    (∀ h ∈ hs, bare h = none → h = none) ∧ KeptApart hs := by
  obtain ⟨-, hsummands⟩ := normal_union_iff.mp hn
  have hnames := nameable_union_iff.mp hname
  have hle : ∀ h ∈ hs, total (members (bare h)) ≤ total [h] := fun h hmem =>
    total_members_le_total (hsummands.normal h hmem) (hnames h hmem) (hl h hmem)
  have hdistinct := total_distinct_le (hs.flatMap fun h => members (bare h))
  have hsum := List.sum_le_sum hle
  rw [members_bare_union hn, total_eq_sum hs] at h
  rw [total_flatMap] at hdistinct
  have hmember : ∀ h ∈ hs, (bare h).Flat ∧ (bare h = none → h = none) := by
    intro k hk
    by_cases hne : k = none
    · subst hne
      rw [bare_none]
      exact ⟨rfl, id⟩
    rcases flat_or_total_lt (hsummands.normal k hk) (hnames k hk) with ⟨hflat, hb⟩ | hlt
    · exact ⟨hflat, fun hnone => absurd hnone hb⟩
    · have hless : total (members (bare k)) < total [k] := by
        rw [total_singleton hne]
        exact Nat.lt_of_lt_of_le hlt (hl k hk).load
      have := List.sum_lt_sum _ _ hle ⟨k, hk, hless⟩
      omega
  have hsome : ∀ h ∈ hs, bare h = none → h = none := fun h hmem => (hmember h hmem).2
  have hflat : ∀ h ∈ hs, (bare h).Flat := fun h hmem => (hmember h hmem).1
  refine ⟨hsome, hflat, different_map_bare hsummands.different hsome ?_⟩
  have hself : hs.flatMap (fun h => members (bare h)) = hs.map bare := by
    rw [← List.flatMap_map]
    exact flatMap_members_eq_self (List.forall_mem_map.mpr hflat)
  have hkept : nonNone (distinct (hs.map bare)) = nonNone (hs.map bare) := by
    apply nonNone_distinct_of_total
    rw [← hself, total_flatMap]
    omega
  rw [← hkept]
  exact (different_distinct _).filter _

/-- A union of two or more hints beside `None` gets lighter, or its members are kept apart. -/
theorem weight_lt_or_keptApart (hmany : (nonNone hs).length ≠ 1) :
    (bare (union hs)).typeName.weight < (union hs).typeName.weight ∨
      ((bare (union hs)).typeName.weight = (union hs).typeName.weight ∧
        (∀ h ∈ hs, bare h = none → h = none) ∧ KeptApart hs) := by
  have hweight : (union hs).typeName.weight = total hs := by
    have hmap : ((nonNone hs).map typeName).length ≠ 1 := by rwa [List.length_map]
    rw [typeName_union (nameable_union_iff.mp hname), TypeName.weight_ofMembers hmap,
      List.map_map]
    rfl
  have hbare := weight_le_total (normal_bare hn) (nameable_bare hname)
  have htotal := total_le_total hn hname hl
  rcases Nat.lt_or_eq_of_le (Nat.le_trans hbare htotal) with hlt | heq
  · exact .inl (hweight ▸ hlt)
  · refine .inr ⟨hweight ▸ heq, keptApart_of_total hn hname hl ?_⟩
    omega

theorem lighter_union : Lighter (union hs) := by
  have hnames := nameable_union_iff.mp hname
  by_cases hone : (nonNone hs).length = 1
  · obtain ⟨h, hone⟩ := List.length_eq_one_iff.mp hone
    obtain ⟨hmem, -⟩ := mem_nonNone.mp (hone ▸ List.mem_singleton_self h)
    have hwith := typeName_union_of_nonNone hone hn hname
    by_cases hbare : bare h = none
    · have hnone : (bare (union hs)).typeName = .noneType := by
        rw [bare_eq_none_of_nonNone hone hn hbare]
        rfl
      constructor
      · rw [hnone]
        exact Nat.zero_le _
      · rw [hnone]
        exact (union hs).typeName.load_pos
    · have hwithout := typeName_bare_of_nonNone hone hn hname hbare
      have hweight := (hl h hmem).weight
      constructor
      · rwa [hwith, hwithout, TypeName.weight_optional, TypeName.weight_optional]
      · rw [hwith, hwithout, TypeName.load_optional, TypeName.load_optional]
        omega
  · rcases weight_lt_or_keptApart hn hname hl hone with hlt | ⟨heq, hsome, hapart⟩
    · -- becoming nullable weighs one, and what was lost weighs as much
      have hload := (bare (union hs)).typeName.load_le
      have hload' := (union hs).typeName.weight_lt_load
      exact ⟨Nat.le_of_lt hlt, by omega⟩
    · refine lighter_of_weight (Nat.le_of_eq heq) ?_
      rw [typeName_bare_of_keptApart hsome hapart hn hname, typeName_union hnames,
        TypeName.nullable_ofMembers, TypeName.nullable_ofMembers]

end Union

end Hint
end RowMapping
