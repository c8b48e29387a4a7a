import Mathlib.Data.List.Nodup
import RowMapping.Proofs.Hint.Alike

/-!
# Names and the order of members

The name of a hint keeps the order of the members of its unions, `None` apart.  So equal hints have
one name if `noneLast`, which puts `None` behind the other members of each union, makes them one
hint.  The converse holds as long as the members of a union can be told apart by their names.

* `typeName_noneLast`  the place of `None` does not show in a name;
* `typeName_eq_iff`  equal hints have one name exactly if their members are in the same order;
* `typeName_unionOf_congr`  the name of a union does not depend on how it is put together.
-/

namespace RowMapping
open RowMapping.TypeName (isNone)

namespace TypeName

theorem eq_of_withNullable {t u : TypeName} {b c : Bool} (hnullable : t.nullable = u.nullable)
    (e : { t with nullable := b } = { u with nullable := c }) : t = u := by
  cases t
  cases u
  simp_all

/-- parameters that are alike one by one are those of their callable -/
theorem own_inj {ts us : List TypeName} (h : List.Forall₂ (fun t u => alike t u = true) ts us)
    (e : ofCallable.own ts = ofCallable.own us) : ts = us := by
  by_cases hone : ts.length = 1
  · obtain ⟨t, rfl⟩ := List.length_eq_one_iff.mp hone
    obtain ⟨u, rfl⟩ := List.length_eq_one_iff.mp (h.length_eq ▸ hone)
    have hstands := standsAlone_eq_of_alike (List.forall₂_cons.mp h).1
    cases ht : t.standsAlone with
    | true =>
      rw [own_of_standsAlone ht, own_of_standsAlone (hstands ▸ ht)] at e
      rw [e]
    | false =>
      rw [own_of_not_standsAlone ht, own_of_not_standsAlone (hstands ▸ ht)] at e
      exact congrArg args e
  · rw [own_of_length hone, own_of_length (h.length_eq ▸ hone)] at e
    exact congrArg args e

end TypeName

namespace Hint

variable {hs ks : List Hint} {h k : Hint}

/-! ### `None` behind the other members -/

mutual

/-- a hint with `None` behind the other members of each union -/
def noneLast : Hint → Hint
  | union hs => union (nonNone (noneLastAll hs) ++ if hs.any isNone then [none] else [])
  | generic c hs => generic c (noneLastAll hs)
  | callable ps r => callable (noneLastAll ps) (noneLast r)
  | annotated h ms => annotated (noneLast h) ms
  | list hs => list (noneLastAll hs)
  | classVar h => classVar (noneLast h)
  | h => h

def noneLastAll : List Hint → List Hint
  | [] => []
  | h :: hs => noneLast h :: noneLastAll hs

end

theorem noneLastAll_eq_map (hs : List Hint) : noneLastAll hs = hs.map noneLast := by
  induction hs with
  | nil => rw [noneLastAll, List.map_nil]
  | cons h hs ih => rw [noneLastAll, ih, List.map_cons]

theorem noneLast_of_atomic (ha : h.atomic = true) : noneLast h = h := by
  cases h <;> simp_all [noneLast, atomic]

theorem noneLast_eq_none_iff : noneLast h = none ↔ h = none := by
  cases h <;> simp [noneLast]

theorem nonNone_map_noneLast (hs : List Hint) :
    nonNone (hs.map noneLast) = (nonNone hs).map noneLast := by
  have hnone : ∀ h : Hint, isNone (noneLast h) = isNone h := fun h => by
    rw [Bool.eq_iff_iff, isNone_iff, isNone_iff, noneLast_eq_none_iff]
  rw [nonNone, List.filter_map, nonNone]
  congr 2
  exact funext fun h => congrArg (!·) (hnone h)

theorem noneLast_union (hs : List Hint) : noneLast (union hs) =
    union ((nonNone hs).map noneLast ++ if hs.any isNone then [none] else []) := by
  rw [noneLast, noneLastAll_eq_map, nonNone_map_noneLast]

theorem noneLast_generic (c : ClassRef) (hs : List Hint) :
    noneLast (generic c hs) = generic c (hs.map noneLast) :=
  congrArg (generic c) (noneLastAll_eq_map hs)

theorem noneLast_callable (ps : List Hint) (r : Hint) :
    noneLast (callable ps r) = callable (ps.map noneLast) (noneLast r) :=
  congrArg (callable · (noneLast r)) (noneLastAll_eq_map ps)

theorem noneLast_annotated (h : Hint) (ms : List Marker) :
    noneLast (annotated h ms) = annotated (noneLast h) ms := rfl

theorem noneLast_list (hs : List Hint) : noneLast (list hs) = list (hs.map noneLast) :=
  congrArg list (noneLastAll_eq_map hs)

theorem noneLast_classVar (h : Hint) : noneLast (classVar h) = classVar (noneLast h) := rfl

theorem nameable_noneLast (hname : h.Nameable) : (noneLast h).Nameable := by
  induction h using ind with
  | atomic h ha => rwa [noneLast_of_atomic ha]
  | union hs ih =>
    rw [nameable_union_iff] at hname
    rw [noneLast_union, nameable_union_iff]
    intro k hk
    rcases List.mem_append.mp hk with hk | hk
    · obtain ⟨h, hh, rfl⟩ := List.mem_map.mp hk
      obtain ⟨hmem, -⟩ := mem_nonNone.mp hh
      exact ih h hmem (hname h hmem)
    · obtain rfl : k = none := by
        split at hk
        · exact List.mem_singleton.mp hk
        · cases hk
      exact nameable_none
  | generic c hs ih =>
    rw [nameable_generic_iff] at hname
    rw [noneLast_generic, nameable_generic_iff]
    exact List.forall_mem_map.mpr fun h hmem => ih h hmem (hname h hmem)
  | callable ps r ihp ihr =>
    obtain ⟨hps, hr⟩ := nameable_callable_iff.mp hname
    rw [noneLast_callable, nameable_callable_iff]
    exact ⟨List.forall_mem_map.mpr fun p hmem => ihp p hmem (hps p hmem), ihr hr⟩
  | annotated h ms ih =>
    rw [noneLast_annotated, nameable_annotated_iff]
    exact ih (nameable_annotated_iff.mp hname)
  | list hs ih =>
    rw [nameable_list_iff] at hname
    rw [noneLast_list, nameable_list_iff]
    exact List.forall_mem_map.mpr fun h hmem => ih h hmem (hname h hmem)
  | classVar h ih =>
    rw [noneLast_classVar, nameable_classVar_iff]
    exact ih (nameable_classVar_iff.mp hname)

/-- the place of `None` does not show in the name of a hint -/
theorem typeName_noneLast (hname : h.Nameable) : (noneLast h).typeName = h.typeName := by
  induction h using ind with
  | atomic h ha => rw [noneLast_of_atomic ha]
  | union hs ih =>
    have hnames := nameable_union_iff.mp hname
    have hlast := nameable_noneLast hname
    rw [noneLast_union] at hlast ⊢
    have hothers : nonNone ((nonNone hs).map noneLast) = (nonNone hs).map noneLast := by
      rw [nonNone_map_noneLast, nonNone, nonNone, List.filter_filter]
      simp only [Bool.and_self]
    have hsome : ((nonNone hs).map noneLast).any isNone = false := by
      rw [List.any_eq_false, ← hothers]
      intro k hk hnone
      exact (mem_nonNone.mp hk).2 (isNone_iff.mp hnone)
    have hflag : ∀ b : Bool, (if b then [none] else []).any isNone = b := by decide
    have hrest : ∀ b : Bool, nonNone (if b then [none] else []) = [] := fun b => by
      cases b <;> rfl
    have hall : ((nonNone hs).map noneLast).map typeName = (nonNone hs).map typeName := by
      rw [List.map_map]
      refine List.map_congr_left fun h hh => ?_
      obtain ⟨hmem, -⟩ := mem_nonNone.mp hh
      exact ih h hmem (hnames h hmem)
    rw [typeName_union (nameable_union_iff.mp hlast), typeName_union hnames, List.any_append,
      hsome, Bool.false_or, hflag, nonNone_append, hothers, hrest, List.append_nil, hall]
  | generic c hs ih =>
    have hlast := nameable_noneLast hname
    rw [noneLast_generic] at hlast ⊢
    rw [nameable_generic_iff] at hname hlast
    rw [typeName_generic hlast, typeName_generic hname, map_typeName_noneLast ih hname]
  | callable ps r ihp ihr =>
    have hlast := nameable_noneLast hname
    rw [noneLast_callable] at hlast ⊢
    obtain ⟨hps, hr⟩ := nameable_callable_iff.mp hname
    obtain ⟨hps', hr'⟩ := nameable_callable_iff.mp hlast
    rw [typeName_callable hps' hr', typeName_callable hps hr, map_typeName_noneLast ihp hps,
      ihr hr]
  | annotated h ms ih =>
    rw [noneLast_annotated, typeName_annotated, typeName_annotated]
    exact ih (nameable_annotated_iff.mp hname)
  | list hs ih =>
    have hlast := nameable_noneLast hname
    rw [noneLast_list] at hlast ⊢
    rw [nameable_list_iff] at hname hlast
    rw [typeName_list hlast, typeName_list hname, map_typeName_noneLast ih hname]
  | classVar h ih =>
    rw [nameable_classVar_iff] at hname
    rw [noneLast_classVar, typeName_classVar (nameable_noneLast hname), typeName_classVar hname,
      ih hname]
where
  map_typeName_noneLast {hs : List Hint}
      (ih : ∀ h ∈ hs, h.Nameable → (noneLast h).typeName = h.typeName)
      (hname : ∀ h ∈ hs, h.Nameable) : (hs.map noneLast).map typeName = hs.map typeName := by
    rw [List.map_map]
    exact List.map_congr_left fun h hmem => ih h hmem (hname h hmem)

/-! ### members told apart by their names -/

/-- a hint in whose unions no two members have names that are alike -/
inductive TellsApart : Hint → Prop
  | atomic {h : Hint} (ha : h.atomic = true) : TellsApart h
  | union {hs : List Hint}
      (hapart : ∀ h ∈ hs, ∀ k ∈ hs, h.typeName.alike k.typeName = true → h = k)
      (hall : ∀ h ∈ hs, h.TellsApart) : TellsApart (union hs)
  | generic {c : ClassRef} {hs : List Hint} (hall : ∀ h ∈ hs, h.TellsApart) :
      TellsApart (generic c hs)
  | callable {ps : List Hint} {r : Hint} (hall : ∀ p ∈ ps, p.TellsApart) (hr : r.TellsApart) :
      TellsApart (callable ps r)
  | annotated {h : Hint} {ms : List Marker} (hh : h.TellsApart) : TellsApart (annotated h ms)
  | list {hs : List Hint} (hall : ∀ h ∈ hs, h.TellsApart) : TellsApart (list hs)
  | classVar {h : Hint} (hh : h.TellsApart) : TellsApart (classVar h)

theorem tellsApart_of_nodup (hnodup : (hs.map fun h => h.typeName.name).Nodup)
    (hall : ∀ h ∈ hs, h.TellsApart) : (union hs).TellsApart := by
  refine .union (fun h hmem k hk halike => ?_) hall
  exact List.inj_on_of_nodup_map hnodup hmem hk (TypeName.alike_iff.mp halike).1.1

theorem forall₂_of_map_typeName (e : hs.map typeName = ks.map typeName) :
    List.Forall₂ (fun h k => h.typeName = k.typeName) hs ks := by
  rw [← List.forall₂_eq_eq_eq, List.forall₂_map_left_iff, List.forall₂_map_right_iff] at e
  exact e

/-- Equal members with the same names one by one are equal one by one, if their names tell them
apart. -/
theorem forall₂_same_of_map_typeName (hn : ∀ h ∈ hs, h.Normal) (kn : ∀ k ∈ ks, k.Normal)
    (hname : ∀ h ∈ hs, h.Nameable) (hsets : EqualSets hs ks)
    (hapart : ∀ h ∈ hs, ∀ k ∈ hs, h.typeName.alike k.typeName = true → h = k)
    (e : hs.map typeName = ks.map typeName) :
    List.Forall₂ (fun h k => same h k = true) hs ks := by
  refine forall₂_imp_of_mem (forall₂_of_map_typeName e) fun h hmem k hk ehk => ?_
  obtain ⟨l, hl, elk⟩ := hsets.2 k hk
  have halike := alike_typeName (hn l hl) (kn k hk) (hname l hl) elk
  rw [← ehk] at halike
  exact hapart l hl h hmem halike ▸ elk

theorem map_typeName_of_ofMembers {b c : Bool} (hn : ∀ h ∈ hs, h.Normal)
    (kn : ∀ k ∈ ks, k.Normal) (hname : ∀ h ∈ hs, h.Nameable) (hp : Different hs)
    (kp : Different ks) (hsets : EqualSets hs ks)
    (e : TypeName.ofMembers b (hs.map typeName) = .ofMembers c (ks.map typeName)) :
    hs.map typeName = ks.map typeName := by
  by_cases hone : hs.length = 1
  · obtain ⟨h, rfl⟩ := List.length_eq_one_iff.mp hone
    obtain ⟨k, rfl, ehk⟩ := hsets.singleton kp
    have hmem := List.mem_singleton_self h
    have hnullable := TypeName.nullable_of_alike
      (alike_typeName (hn h hmem) (kn k (List.mem_singleton_self k)) (hname h hmem) ehk)
    exact congrArg ([·]) (TypeName.eq_of_withNullable hnullable e)
  · have kone := mt (hsets.length_eq_one_iff hp kp).mpr hone
    rw [TypeName.ofMembers_of_length (by rwa [List.length_map]),
      TypeName.ofMembers_of_length (by rwa [List.length_map])] at e
    exact congrArg TypeName.args e

theorem noneLast_eq_of_typeName (hapart : h.TellsApart) (hn : h.Normal) (kn : k.Normal)
    (hname : h.Nameable) (e : same h k = true) (et : h.typeName = k.typeName) :
    noneLast h = noneLast k := by
  induction hapart generalizing k with
  | atomic ha =>
    rcases same_of_atomic ha e with rfl | ⟨vs, ws, rfl, rfl⟩ | ⟨v, w, rfl, rfl⟩
    · rfl
    · have hwname := nameable_of_same hname e
      rw [typeName_literal hname, typeName_literal hwname] at et
      have hlength := congrArg (fun t : TypeName => t.args.length) et
      rw [List.length_map, List.length_map] at hlength
      have hvs := List.eq_replicate_of_mem (nameable_literal_iff.mp hname)
      have hws := List.eq_replicate_of_mem (nameable_literal_iff.mp hwname)
      rw [hvs, hws, hlength]
    · obtain ⟨t, ht⟩ := hname
      cases ht
  | @union hs hapart _ ih =>
    have hkname := nameable_of_same hname e
    obtain ⟨ks, rfl, hsets⟩ := same_union_iff.mp e
    have hsets : EqualSets hs ks := hsets
    obtain ⟨-, hsummands⟩ := normal_union_iff.mp hn
    obtain ⟨-, ksummands⟩ := normal_union_iff.mp kn
    rw [nameable_union_iff] at hname hkname
    rw [typeName_union hname, typeName_union hkname] at et
    have hin : ∀ h ∈ nonNone hs, h ∈ hs := fun h hh => (mem_nonNone.mp hh).1
    have hnormal : ∀ h ∈ nonNone hs, h.Normal := fun h hh => hsummands.normal h (hin h hh)
    have knormal : ∀ k ∈ nonNone ks, k.Normal := fun k hk =>
      ksummands.normal k (mem_nonNone.mp hk).1
    have hnames : ∀ h ∈ nonNone hs, h.Nameable := fun h hh => hname h (hin h hh)
    have enames := map_typeName_of_ofMembers hnormal knormal hnames
      (hsummands.different.filter _) (ksummands.different.filter _) hsets.nonNone et
    have hall := forall₂_same_of_map_typeName hnormal knormal hnames hsets.nonNone
      (fun h hh k hk => hapart h (hin h hh) k (hin k hk)) enames
    rw [noneLast_union, noneLast_union, hsets.any_isNone,
      map_noneLast_eq (fun h hh => ih h (hin h hh)) hnormal knormal hnames hall enames]
  | @generic c hs _ ih =>
    have hkname := nameable_of_same hname e
    obtain ⟨ks, rfl, hall⟩ := same_generic_iff.mp e
    rw [nameable_generic_iff] at hname hkname
    rw [normal_generic_iff] at hn kn
    rw [typeName_generic hname, typeName_generic hkname] at et
    rw [noneLast_generic, noneLast_generic,
      map_noneLast_eq ih hn kn hname hall (congrArg TypeName.args et)]
  | @callable ps r _ _ ihp ihr =>
    have hkname := nameable_of_same hname e
    obtain ⟨qs, s, rfl, hall, er⟩ := same_callable_iff.mp e
    obtain ⟨hps, hr⟩ := nameable_callable_iff.mp hname
    obtain ⟨hqs, hs⟩ := nameable_callable_iff.mp hkname
    obtain ⟨hnp, hnr⟩ := normal_callable_iff.mp hn
    obtain ⟨knq, kns⟩ := normal_callable_iff.mp kn
    rw [typeName_callable hps hr, typeName_callable hqs hs] at et
    obtain ⟨eown, eresult⟩ := List.cons_eq_cons.mp (congrArg TypeName.args et)
    have eparams := TypeName.own_inj
      (alike_typeName.alike_map_typeName (fun h _ => alike_typeName) hnp knq hps hall) eown
    rw [noneLast_callable, noneLast_callable, map_noneLast_eq ihp hnp knq hps hall eparams,
      ihr hnr kns hr er (List.cons_eq_cons.mp eresult).1]
  | annotated _ ih =>
    obtain ⟨k, rfl, ek⟩ := same_annotated_iff.mp e
    rw [typeName_annotated, typeName_annotated] at et
    rw [noneLast_annotated, noneLast_annotated, ih (normal_annotated_iff.mp hn)
      (normal_annotated_iff.mp kn) (nameable_annotated_iff.mp hname) ek et]
  | @list hs _ ih =>
    have hkname := nameable_of_same hname e
    obtain ⟨ks, rfl, hall⟩ := same_list_iff.mp e
    rw [nameable_list_iff] at hname hkname
    rw [typeName_list hname, typeName_list hkname] at et
    rw [noneLast_list, noneLast_list, map_noneLast_eq ih (normal_list_iff.mp hn)
      (normal_list_iff.mp kn) hname hall (congrArg TypeName.args et)]
  | classVar _ ih =>
    have hkname := nameable_of_same hname e
    obtain ⟨k, rfl, ek⟩ := same_classVar_iff.mp e
    rw [nameable_classVar_iff] at hname hkname
    rw [typeName_classVar hname, typeName_classVar hkname] at et
    rw [noneLast_classVar, noneLast_classVar, ih (normal_classVar_iff.mp hn)
      (normal_classVar_iff.mp kn) hname ek (List.cons_eq_cons.mp (congrArg TypeName.args et)).1]
where
  map_noneLast_eq {hs ks : List Hint}
      (ih : ∀ h ∈ hs, ∀ {k : Hint}, h.Normal → k.Normal → h.Nameable → same h k = true →
        h.typeName = k.typeName → noneLast h = noneLast k)
      (hn : ∀ h ∈ hs, h.Normal) (kn : ∀ k ∈ ks, k.Normal) (hname : ∀ h ∈ hs, h.Nameable)
      (hall : List.Forall₂ (fun h k => same h k = true) hs ks)
      (e : hs.map typeName = ks.map typeName) : hs.map noneLast = ks.map noneLast := by
    refine map_eq_map_of_forall₂ (forall₂_imp_of_mem hall fun h hmem k hk ehk => ?_) e
    exact ih h hmem (hn h hmem) (kn k hk) (hname h hmem) ehk

theorem typeName_eq_of_noneLast (hname : h.Nameable) (kname : k.Nameable)
    (e : noneLast h = noneLast k) : h.typeName = k.typeName := by
  rw [← typeName_noneLast hname, e, typeName_noneLast kname]

/-- Equal hints have one name exactly if their members are in the same order, `None` apart. -/
theorem typeName_eq_iff (hapart : h.TellsApart) (hn : h.Normal) (kn : k.Normal)
    (hname : h.Nameable) (e : same h k = true) :
    h.typeName = k.typeName ↔ noneLast h = noneLast k :=
  ⟨noneLast_eq_of_typeName hapart hn kn hname e,
    typeName_eq_of_noneLast hname (nameable_of_same hname e)⟩

/-! ### unions put together in different ways -/

theorem eq_singleton_none (hp : Different hs) (hmem : none ∈ hs) (hempty : nonNone hs = []) :
    hs = [none] := by
  have hall : ∀ h ∈ hs, h = none := by
    intro h hh
    by_contra hne
    exact List.not_mem_nil (hempty ▸ mem_nonNone.mpr ⟨hh, hne⟩)
  obtain ⟨h, rfl⟩ := eq_singleton_of_forall_same (List.ne_nil_of_mem hmem) hp fun h hh =>
    none_same_iff.mpr (hall h hh)
  rw [hall h List.mem_cons_self]

theorem typeName_ofMembers_congr (hp : Different hs) (kp : Different ks)
    (hname : ∀ h ∈ hs, h.Nameable) (kname : ∀ k ∈ ks, k.Nameable)
    (e : nonNone hs = nonNone ks) (hnone : none ∈ hs ↔ none ∈ ks) :
    (ofMembers hs).typeName = (ofMembers ks).typeName := by
  by_cases hmem : none ∈ hs
  · have kmem := hnone.mp hmem
    by_cases hempty : nonNone hs = []
    · rw [eq_singleton_none hp hmem hempty, eq_singleton_none kp kmem (e ▸ hempty)]
    · have hunion : ∀ {ls : List Hint}, none ∈ ls → nonNone ls ≠ [] → ofMembers ls = union ls := by
        intro ls hl hne
        refine ofMembers_eq_union ?_
        rintro ⟨l, rfl⟩
        obtain rfl := List.mem_singleton.mp hl
        exact hne rfl
      rw [hunion hmem hempty, hunion kmem (e ▸ hempty), typeName_union hname,
        typeName_union kname, e, any_isNone_iff.mpr hmem, any_isNone_iff.mpr kmem]
  · have hself : ∀ {ls : List Hint}, none ∉ ls → nonNone ls = ls := fun hl =>
      List.filter_eq_self.mpr fun l hmem => by
        rw [isNone_eq_false_iff.mpr fun hl' => hl (hl' ▸ hmem), Bool.not_false]
    rw [hself hmem, hself (mt hnone.mpr hmem)] at e
    rw [e]

/-- The name of a union depends on its members other than `None`, in their order, and on whether
`None` is among them. -/
theorem typeName_unionOf_congr (hname : ∀ h ∈ hs, h.Nameable) (kname : ∀ k ∈ ks, k.Nameable)
    (e : nonNone (hs.flatMap members) = nonNone (ks.flatMap members))
    (hnone : none ∈ hs.flatMap members ↔ none ∈ ks.flatMap members) :
    (unionOf hs).typeName = (unionOf ks).typeName := by
  refine typeName_ofMembers_congr (different_distinct _) (different_distinct _)
    (nameable_of_mem_distinct hname) (nameable_of_mem_distinct kname) ?_ ?_
  · rw [nonNone_distinct, nonNone_distinct, e]
  · exact none_mem_distinct.trans (hnone.trans none_mem_distinct.symm)

end Hint
end RowMapping
