import RowMapping.Proofs.Hint.Names
import RowMapping.Proofs.TypeName.Alike

/-!
# The names of equal hints

Equality of hints leaves the order of the members of a union open, and a name keeps it.  So equal
hints have names that are alike: they differ in the order of members at most.  `None` is no
matter here, since it is not named as a member.

* `nameable_of_same`  with a hint, everything that is equal to it can be named;
* `alike_typeName`  the names of equal hints are alike.
-/

namespace RowMapping
open RowMapping.TypeName (isNone ofHint)

namespace TypeName

theorem standsAlone_eq_of_alike {t u : TypeName} (h : t.alike u = true) :
    t.standsAlone = u.standsAlone := by
  obtain ⟨⟨hname, hmodule, -⟩, -⟩ := alike_iff.mp h
  rw [standsAlone, standsAlone, hname, hmodule]

theorem alike_parameters {ts us : List TypeName}
    (h : List.Forall₂ (fun t u => alike t u = true) ts us) :
    (parameters ts).alike (parameters us) = true := alike_of_forall₂ rfl rfl rfl h

/-- callables have alike parameters if their parameters are alike one by one -/
theorem alike_own {ts us : List TypeName}
    (h : List.Forall₂ (fun t u => alike t u = true) ts us) :
    (ofCallable.own ts).alike (ofCallable.own us) = true := by
  by_cases hone : ts.length = 1
  · obtain ⟨t, rfl⟩ := List.length_eq_one_iff.mp hone
    obtain ⟨u, rfl⟩ := List.length_eq_one_iff.mp (h.length_eq ▸ hone)
    have htu : t.alike u = true := (List.forall₂_cons.mp h).1
    have hstands := standsAlone_eq_of_alike htu
    cases ht : t.standsAlone with
    | true => rwa [own_of_standsAlone ht, own_of_standsAlone (hstands ▸ ht)]
    | false =>
      rw [own_of_not_standsAlone ht, own_of_not_standsAlone (hstands ▸ ht)]
      exact alike_parameters h
  · rw [own_of_length hone, own_of_length (h.length_eq ▸ hone)]
    exact alike_parameters h

end TypeName

namespace Hint

variable {hs ks : List Hint} {h k : Hint}

/-! ### literals -/

theorem mapM_ofScalar {vs : List Scalar} (hall : ∀ v ∈ vs, v = .none) :
    vs.mapM TypeName.ofScalar = .ok (vs.map fun _ => .noneType) := by
  induction vs with
  | nil => rfl
  | cons v vs ih =>
    obtain ⟨rfl, hrest⟩ := List.forall_mem_cons.mp hall
    rw [List.mapM_cons, ih hrest]
    rfl

theorem nameable_literal_iff {vs : List Scalar} :
    (literal vs).Nameable ↔ ∀ v ∈ vs, v = .none := by
  rw [Nameable, show ofHint (literal vs) = (vs.mapM TypeName.ofScalar).map _ from rfl,
    exists_map_eq_ok_iff]
  constructor
  · rintro ⟨ts, hts⟩ v hv
    obtain ⟨t, -, ht⟩ := exists_right_of_forall₂ (forall₂_of_mapM_eq_ok hts) hv
    cases v with
    | none => rfl
    | _ => cases ht
  · exact fun hall => ⟨_, mapM_ofScalar hall⟩

theorem typeName_literal {vs : List Scalar} (hn : (literal vs).Nameable) :
    (literal vs).typeName =
      { name := "Literal", module := "typing", args := vs.map fun _ => .noneType } := by
  apply typeName_eq
  rw [show ofHint (literal vs) = (vs.mapM TypeName.ofScalar).map _ from rfl,
    mapM_ofScalar (nameable_literal_iff.mp hn)]
  rfl

theorem alike_typeName_literal {vs ws : List Scalar} (hv : (literal vs).Nameable)
    (hw : (literal ws).Nameable) (e : same (literal vs) (literal ws) = true) :
    (literal vs).typeName.alike (literal ws).typeName = true := by
  obtain ⟨hin, hout⟩ := same_literal_iff.mp e
  rw [typeName_literal hv, typeName_literal hw]
  refine TypeName.alike_iff.mpr ⟨⟨rfl, rfl, rfl⟩, ?_, ?_⟩
  · refine List.forall_mem_map.mpr fun v hv => ?_
    exact ⟨_, List.mem_map_of_mem (hin v hv), TypeName.alike_refl _⟩
  · refine List.forall_mem_map.mpr fun w hw => ?_
    exact ⟨_, List.mem_map_of_mem (hout w hw), TypeName.alike_refl _⟩

/-! ### equal members -/

/-- Lists of hints each of which is equal to one on the other side. -/
def EqualSets (hs ks : List Hint) : Prop :=
  (∀ h ∈ hs, ∃ k ∈ ks, same h k = true) ∧ ∀ k ∈ ks, ∃ h ∈ hs, same h k = true

theorem EqualSets.symm (h : EqualSets hs ks) : EqualSets ks hs := by
  obtain ⟨hin, hout⟩ := h
  constructor
  · intro k hk
    obtain ⟨h, hmem, e⟩ := hout k hk
    exact ⟨h, hmem, same_symm e⟩
  · intro h hmem
    obtain ⟨k, hk, e⟩ := hin h hmem
    exact ⟨k, hk, same_symm e⟩

theorem eq_none_iff_of_same (e : same h k = true) : h = none ↔ k = none := by
  constructor
  · rintro rfl
    exact none_same_iff.mp e
  · rintro rfl
    exact none_same_iff.mp (same_symm e)

theorem EqualSets.nonNone (h : EqualSets hs ks) : EqualSets (nonNone hs) (nonNone ks) := by
  obtain ⟨hin, hout⟩ := h
  constructor
  · intro h hh
    obtain ⟨hmem, hne⟩ := mem_nonNone.mp hh
    obtain ⟨k, hk, e⟩ := hin h hmem
    exact ⟨k, mem_nonNone.mpr ⟨hk, mt (eq_none_iff_of_same e).mpr hne⟩, e⟩
  · intro k hk
    obtain ⟨hmem, hne⟩ := mem_nonNone.mp hk
    obtain ⟨h, hh, e⟩ := hout k hmem
    exact ⟨h, mem_nonNone.mpr ⟨hh, mt (eq_none_iff_of_same e).mp hne⟩, e⟩

theorem EqualSets.any_isNone (h : EqualSets hs ks) : hs.any isNone = ks.any isNone := by
  have hmem : ∀ {as bs : List Hint}, EqualSets as bs → none ∈ as → none ∈ bs := by
    intro as bs hab hnone
    obtain ⟨b, hb, e⟩ := hab.1 none hnone
    exact none_same_iff.mp e ▸ hb
  rw [Bool.eq_iff_iff, any_isNone_iff, any_isNone_iff]
  exact ⟨hmem h, hmem h.symm⟩

/-- Where one list has a single member, a list of equal and different members has one, too. -/
theorem EqualSets.singleton (h : EqualSets [k] ks) (kp : Different ks) :
    ∃ l, ks = [l] ∧ same k l = true := by
  obtain ⟨hin, hout⟩ := h
  obtain ⟨l, hl, e⟩ := hin k List.mem_cons_self
  have hall : ∀ l ∈ ks, same k l = true := by simpa using hout
  obtain ⟨l, rfl⟩ := eq_singleton_of_forall_same (List.ne_nil_of_mem hl) kp hall
  exact ⟨l, rfl, hall l List.mem_cons_self⟩

theorem EqualSets.length_eq_one_iff (h : EqualSets hs ks) (hp : Different hs)
    (kp : Different ks) : hs.length = 1 ↔ ks.length = 1 := by
  have hone : ∀ {as bs : List Hint}, EqualSets as bs → Different bs → as.length = 1 →
      bs.length = 1 := by
    intro as bs hab bp hone
    obtain ⟨a, rfl⟩ := List.length_eq_one_iff.mp hone
    obtain ⟨b, rfl, -⟩ := hab.singleton bp
    rfl
  exact ⟨hone h kp, hone h.symm hp⟩

/-! ### names -/

theorem nameable_of_same (hn : h.Nameable) (e : same h k = true) : k.Nameable := by
  induction h using ind generalizing k with
  | atomic h ha =>
    rcases same_of_atomic ha e with rfl | ⟨vs, ws, rfl, rfl⟩ | ⟨v, w, rfl, rfl⟩
    · exact hn
    · rw [nameable_literal_iff] at hn ⊢
      exact fun w hw => hn w ((same_literal_iff.mp e).2 w hw)
    · obtain ⟨t, ht⟩ := hn
      cases ht
  | union hs ih =>
    rw [nameable_union_iff] at hn
    obtain ⟨ks, rfl, -, hout⟩ := same_union_iff.mp e
    refine nameable_union_iff.mpr fun k hk => ?_
    obtain ⟨h, hmem, e⟩ := hout k hk
    exact ih h hmem (hn h hmem) e
  | generic c hs ih =>
    rw [nameable_generic_iff] at hn
    obtain ⟨ks, rfl, hall⟩ := same_generic_iff.mp e
    exact nameable_generic_iff.mpr (nameable_of_forall₂ ih hn hall)
  | callable ps r ihp ihr =>
    obtain ⟨hps, hr⟩ := nameable_callable_iff.mp hn
    obtain ⟨qs, s, rfl, hall, er⟩ := same_callable_iff.mp e
    exact nameable_callable_iff.mpr ⟨nameable_of_forall₂ ihp hps hall, ihr hr er⟩
  | annotated h ms ih =>
    obtain ⟨k, rfl, ek⟩ := same_annotated_iff.mp e
    exact nameable_annotated_iff.mpr (ih (nameable_annotated_iff.mp hn) ek)
  | list hs ih =>
    rw [nameable_list_iff] at hn
    obtain ⟨ks, rfl, hall⟩ := same_list_iff.mp e
    exact nameable_list_iff.mpr (nameable_of_forall₂ ih hn hall)
  | classVar h ih =>
    obtain ⟨k, rfl, ek⟩ := same_classVar_iff.mp e
    exact nameable_classVar_iff.mpr (ih (nameable_classVar_iff.mp hn) ek)
where
  nameable_of_forall₂ {hs ks : List Hint}
      (ih : ∀ h ∈ hs, ∀ {k : Hint}, h.Nameable → same h k = true → k.Nameable)
      (hn : ∀ h ∈ hs, h.Nameable) (hall : List.Forall₂ (fun h k => same h k = true) hs ks) :
      ∀ k ∈ ks, k.Nameable := by
    intro k hk
    obtain ⟨h, hmem, e⟩ := exists_left_of_forall₂ hall hk
    exact ih h hmem (hn h hmem) e

/-- Members that differ among themselves and have alike names make unions with alike names. -/
theorem alike_ofMembers (b : Bool) (hp : Different hs) (kp : Different ks)
    (hsets : EqualSets hs ks)
    (hall : ∀ h ∈ hs, ∀ k ∈ ks, same h k = true → h.typeName.alike k.typeName = true) :
    (TypeName.ofMembers b (hs.map typeName)).alike (.ofMembers b (ks.map typeName)) = true := by
  by_cases hone : hs.length = 1
  · obtain ⟨h, rfl⟩ := List.length_eq_one_iff.mp hone
    obtain ⟨k, rfl, e⟩ := hsets.singleton kp
    exact TypeName.alike_withNullable (hall h List.mem_cons_self k List.mem_cons_self e) b
  · have kone := mt (hsets.length_eq_one_iff hp kp).mpr hone
    obtain ⟨hin, hout⟩ := hsets
    rw [TypeName.ofMembers_of_length (by rwa [List.length_map]),
      TypeName.ofMembers_of_length (by rwa [List.length_map])]
    refine TypeName.alike_iff.mpr ⟨⟨rfl, rfl, rfl⟩, ?_, ?_⟩
    · refine List.forall_mem_map.mpr fun h hmem => ?_
      obtain ⟨k, hk, e⟩ := hin h hmem
      exact ⟨_, List.mem_map_of_mem hk, hall h hmem k hk e⟩
    · refine List.forall_mem_map.mpr fun k hk => ?_
      obtain ⟨h, hmem, e⟩ := hout k hk
      exact ⟨_, List.mem_map_of_mem hmem, hall h hmem k hk e⟩

/-- the names of equal hints differ in the order of members at most -/
theorem alike_typeName (hn : h.Normal) (kn : k.Normal) (hname : h.Nameable)
    (e : same h k = true) : h.typeName.alike k.typeName = true := by
  induction h using ind generalizing k with
  | atomic h ha =>
    rcases same_of_atomic ha e with rfl | ⟨vs, ws, rfl, rfl⟩ | ⟨v, w, rfl, rfl⟩
    · exact TypeName.alike_refl _
    · exact alike_typeName_literal hname (nameable_of_same hname e) e
    · obtain ⟨t, ht⟩ := hname
      cases ht
  | union hs ih =>
    have hkname := nameable_of_same hname e
    obtain ⟨ks, rfl, hsets⟩ := same_union_iff.mp e
    have hsets : EqualSets hs ks := hsets
    obtain ⟨-, hsummands⟩ := normal_union_iff.mp hn
    obtain ⟨-, ksummands⟩ := normal_union_iff.mp kn
    have hnames := nameable_union_iff.mp hname
    rw [typeName_union hnames, typeName_union (nameable_union_iff.mp hkname), hsets.any_isNone]
    refine alike_ofMembers _ (hsummands.different.filter _) (ksummands.different.filter _)
      hsets.nonNone fun h hh k hk e => ?_
    obtain ⟨hmem, -⟩ := mem_nonNone.mp hh
    obtain ⟨kmem, -⟩ := mem_nonNone.mp hk
    exact ih h hmem (hsummands.normal h hmem) (ksummands.normal k kmem) (hnames h hmem) e
  | generic c hs ih =>
    have hkname := nameable_of_same hname e
    obtain ⟨ks, rfl, hall⟩ := same_generic_iff.mp e
    rw [nameable_generic_iff] at hname hkname
    rw [normal_generic_iff] at hn kn
    rw [typeName_generic hname, typeName_generic hkname]
    exact TypeName.alike_of_forall₂ rfl rfl rfl (alike_map_typeName ih hn kn hname hall)
  | callable ps r ihp ihr =>
    have hkname := nameable_of_same hname e
    obtain ⟨qs, s, rfl, hall, er⟩ := same_callable_iff.mp e
    obtain ⟨hps, hr⟩ := nameable_callable_iff.mp hname
    obtain ⟨hqs, hs⟩ := nameable_callable_iff.mp hkname
    obtain ⟨hnp, hnr⟩ := normal_callable_iff.mp hn
    obtain ⟨knq, kns⟩ := normal_callable_iff.mp kn
    rw [typeName_callable hps hr, typeName_callable hqs hs]
    have hown := TypeName.alike_own (alike_map_typeName ihp hnp knq hps hall)
    exact TypeName.alike_of_forall₂ rfl rfl rfl (.cons hown (.cons (ihr hnr kns hr er) .nil))
  | annotated h ms ih =>
    obtain ⟨k, rfl, ek⟩ := same_annotated_iff.mp e
    rw [typeName_annotated, typeName_annotated]
    exact ih (normal_annotated_iff.mp hn) (normal_annotated_iff.mp kn)
      (nameable_annotated_iff.mp hname) ek
  | list hs ih =>
    have hkname := nameable_of_same hname e
    obtain ⟨ks, rfl, hall⟩ := same_list_iff.mp e
    rw [nameable_list_iff] at hname hkname
    rw [typeName_list hname, typeName_list hkname]
    exact TypeName.alike_parameters
      (alike_map_typeName ih (normal_list_iff.mp hn) (normal_list_iff.mp kn) hname hall)
  | classVar h ih =>
    have hkname := nameable_of_same hname e
    obtain ⟨k, rfl, ek⟩ := same_classVar_iff.mp e
    rw [nameable_classVar_iff] at hname hkname
    rw [typeName_classVar hname, typeName_classVar hkname]
    have hargs := ih (normal_classVar_iff.mp hn) (normal_classVar_iff.mp kn) hname ek
    exact TypeName.alike_of_forall₂ rfl rfl rfl (.cons hargs .nil)
where
  alike_map_typeName {hs ks : List Hint}
      (ih : ∀ h ∈ hs, ∀ {k : Hint}, h.Normal → k.Normal → h.Nameable → same h k = true →
        h.typeName.alike k.typeName = true)
      (hn : ∀ h ∈ hs, h.Normal) (kn : ∀ k ∈ ks, k.Normal) (hname : ∀ h ∈ hs, h.Nameable)
      (hall : List.Forall₂ (fun h k => same h k = true) hs ks) :
      List.Forall₂ (fun t u => TypeName.alike t u = true) (hs.map typeName)
        (ks.map typeName) := by
    rw [List.forall₂_map_left_iff, List.forall₂_map_right_iff]
    refine forall₂_imp_of_mem hall fun h hmem k hk e => ?_
    exact ih h hmem (hn h hmem) (kn k hk) (hname h hmem) e

end Hint
end RowMapping
