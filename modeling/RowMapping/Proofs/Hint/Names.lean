import RowMapping.Proofs.Hint.Weight

/-!
# Names with and without markers

The two ways to name a hint agree exactly on the hints that keep their unions: to take off the
markers at its top and name what is left, which leaves markers aside wherever they stand, or to
drop the markers at every depth, which makes its unions again, and to name the result.

* `lighter`  no name gets heavier when markers are dropped;
* `typeName_bare_iff`  the name stays the same exactly if the hint keeps its unions.
-/

namespace RowMapping
open RowMapping.TypeName (isNone)

namespace TypeName

/-! ### the parameters of a callable -/

/-- whether a lone parameter stands for the parameters themselves -/
def standsAlone (t : TypeName) : Bool :=
  t.module = syntaxModule && (t.name = "..." || t.name = parameterList)

theorem module_of_standsAlone {t : TypeName} (h : t.standsAlone = true) :
    t.module = syntaxModule := by
  unfold standsAlone at h
  rw [Bool.and_eq_true] at h
  exact of_decide_eq_true h.1

theorem own_of_standsAlone {t : TypeName} (h : t.standsAlone = true) : ofCallable.own [t] = t :=
  if_pos h

theorem own_of_not_standsAlone {t : TypeName} (h : t.standsAlone = false) :
    ofCallable.own [t] = parameters [t] := if_neg (by rw [← standsAlone, h]; decide)

theorem own_of_length {ts : List TypeName} (h : ts.length ≠ 1) :
    ofCallable.own ts = parameters ts := by
  match ts with
  | [] => rfl
  | [t] => exact absurd rfl h
  | t :: u :: rest => rfl

theorem standsAlone_optional (t : TypeName) : t.optional.standsAlone = t.standsAlone := rfl

theorem module_ofMembers {b : Bool} {ts : List TypeName} (h : ts.length ≠ 1) :
    (ofMembers b ts).module = "typing" := by rw [ofMembers_of_length h]

theorem args_ofMembers {b : Bool} {ts : List TypeName} (h : ts.length ≠ 1) :
    (ofMembers b ts).args = ts := by rw [ofMembers_of_length h]

theorem load_parameters (ts : List TypeName) : (parameters ts).load = 1 + (ts.map load).sum := by
  rw [load, weight_eq]
  rfl

theorem load_own_le (t : TypeName) : (ofCallable.own [t]).load ≤ 1 + t.load := by
  cases h : t.standsAlone with
  | true =>
    rw [own_of_standsAlone h]
    omega
  | false =>
    rw [own_of_not_standsAlone h, load_parameters]
    exact Nat.le_refl _

theorem weight_ofCallable (ts : List TypeName) (r : TypeName) :
    (ofCallable ts r).weight = (ofCallable.own ts).load + r.load := by
  rw [weight_eq]
  show (ofCallable.own ts).load + (r.load + 0) = _
  rw [Nat.add_zero]

end TypeName

namespace Hint

variable {hs ps : List Hint} {h : Hint}

/-- what stands for the parameters of a callable does so without its markers too -/
theorem standsAlone_bare (hn : h.Normal) (hname : h.Nameable)
    (hs : h.typeName.standsAlone = true) : (bare h).typeName.standsAlone = true := by
  induction h using ind with
  | atomic h ha =>
    rw [bare_of_atomic ha]
    exact hs
  | union ks ih =>
    obtain ⟨htwo, hsummands⟩ := normal_union_iff.mp hn
    have hnames := nameable_union_iff.mp hname
    by_cases hone : (nonNone ks).length = 1
    · obtain ⟨k, hone⟩ := List.length_eq_one_iff.mp hone
      obtain ⟨hmem, -⟩ := mem_nonNone.mp (hone ▸ List.mem_singleton_self k)
      rw [typeName_union_of_nonNone hone hn hname, TypeName.standsAlone_optional] at hs
      have hk := ih k hmem (hsummands.normal k hmem) (hnames k hmem) hs
      have hbare : bare k ≠ none := by
        intro hb
        rw [hb] at hk
        exact absurd hk (by decide)
      rwa [typeName_bare_of_nonNone hone hn hname hbare]
    · have hmap : ((nonNone ks).map typeName).length ≠ 1 := by rwa [List.length_map]
      rw [typeName_union hnames] at hs
      have hmodule := TypeName.module_of_standsAlone hs
      rw [TypeName.module_ofMembers hmap] at hmodule
      exact absurd hmodule (by decide)
  | generic c ks _ =>
    rw [nameable_generic_iff] at hname
    rw [typeName_generic hname] at hs
    rwa [bare_generic, typeName_generic (nameable_of_mem_map_bare hname)]
  | callable ps r _ _ =>
    obtain ⟨hps, hr⟩ := nameable_callable_iff.mp hname
    rw [typeName_callable hps hr] at hs
    have hmodule : "collections.abc" = TypeName.syntaxModule := TypeName.module_of_standsAlone hs
    exact absurd hmodule (by decide)
  | annotated h ms ih =>
    rw [bare_annotated]
    exact ih (normal_annotated_iff.mp hn) (nameable_annotated_iff.mp hname)
      (typeName_annotated h ms ▸ hs)
  | list ks _ => rwa [bare_list]
  | classVar h _ =>
    rw [typeName_classVar (nameable_classVar_iff.mp hname)] at hs
    have hmodule : "typing" = TypeName.syntaxModule := TypeName.module_of_standsAlone hs
    exact absurd hmodule (by decide)

/-! ### weights -/

theorem sum_load_map_bare_le (hl : ∀ h ∈ hs, Lighter h) :
    (((hs.map bare).map typeName).map TypeName.load).sum ≤
      ((hs.map typeName).map TypeName.load).sum := by
  rw [List.map_map, List.map_map, List.map_map]
  exact List.sum_le_sum fun h hmem => (hl h hmem).load

theorem load_own_map_bare_le (hn : ∀ p ∈ ps, p.Normal) (hname : ∀ p ∈ ps, p.Nameable)
    (hl : ∀ p ∈ ps, Lighter p) :
    (TypeName.ofCallable.own ((ps.map bare).map typeName)).load ≤
      (TypeName.ofCallable.own (ps.map typeName)).load := by
  by_cases hone : ps.length = 1
  · obtain ⟨p, rfl⟩ := List.length_eq_one_iff.mp hone
    have hp := List.mem_singleton_self p
    have hload := (hl p hp).load
    show (TypeName.ofCallable.own [(bare p).typeName]).load ≤
      (TypeName.ofCallable.own [p.typeName]).load
    cases hstands : p.typeName.standsAlone with
    | true =>
      rw [TypeName.own_of_standsAlone hstands,
        TypeName.own_of_standsAlone (standsAlone_bare (hn p hp) (hname p hp) hstands)]
      exact hload
    | false =>
      have hle := (bare p).typeName.load_own_le
      have hparams : (TypeName.parameters [p.typeName]).load = 1 + (p.typeName.load + 0) :=
        TypeName.load_parameters _
      rw [TypeName.own_of_not_standsAlone hstands, hparams]
      omega
  · have hmap : (ps.map typeName).length ≠ 1 := by rwa [List.length_map]
    have hmap' : ((ps.map bare).map typeName).length ≠ 1 := by
      rwa [List.length_map, List.length_map]
    rw [TypeName.own_of_length hmap, TypeName.own_of_length hmap', TypeName.load_parameters,
      TypeName.load_parameters]
    exact Nat.add_le_add_left (sum_load_map_bare_le hl) 1

/-- dropping markers makes the name of a hint no heavier -/
theorem lighter (hn : h.Normal) (hname : h.Nameable) : Lighter h := by
  induction h using ind with
  | atomic h ha =>
    have hself := bare_of_atomic ha
    exact ⟨by rw [hself], by rw [hself]⟩
  | union hs ih =>
    obtain ⟨-, hsummands⟩ := normal_union_iff.mp hn
    exact lighter_union hn hname fun h hmem =>
      ih h hmem (hsummands.normal h hmem) (nameable_union_iff.mp hname h hmem)
  | generic c hs ih =>
    rw [normal_generic_iff] at hn
    rw [nameable_generic_iff] at hname
    have hle := sum_load_map_bare_le fun h hmem => ih h hmem (hn h hmem) (hname h hmem)
    refine lighter_of_weight ?_ ?_
    · rw [bare_generic, typeName_generic (nameable_of_mem_map_bare hname), typeName_generic hname,
        TypeName.weight_eq, TypeName.weight_eq]
      exact hle
    · rw [bare_generic, typeName_generic (nameable_of_mem_map_bare hname), typeName_generic hname]
  | callable ps r ihp ihr =>
    obtain ⟨hnp, hnr⟩ := normal_callable_iff.mp hn
    obtain ⟨hps, hr⟩ := nameable_callable_iff.mp hname
    have hparams := load_own_map_bare_le hnp hps fun p hp => ihp p hp (hnp p hp) (hps p hp)
    refine lighter_of_weight ?_ ?_
    · rw [bare_callable, typeName_callable (nameable_of_mem_map_bare hps) (nameable_bare hr),
        typeName_callable hps hr, TypeName.weight_ofCallable, TypeName.weight_ofCallable]
      exact Nat.add_le_add hparams (ihr hnr hr).load
    · rw [bare_callable, typeName_callable (nameable_of_mem_map_bare hps) (nameable_bare hr),
        typeName_callable hps hr]
      rfl
  | annotated h ms ih =>
    obtain ⟨hweight, hload⟩ := ih (normal_annotated_iff.mp hn) (nameable_annotated_iff.mp hname)
    constructor
    · rwa [bare_annotated, typeName_annotated]
    · rwa [bare_annotated, typeName_annotated]
  | list hs _ =>
    have hself := bare_list hs
    exact ⟨by rw [hself], by rw [hself]⟩
  | classVar h ih =>
    have hname := nameable_classVar_iff.mp hname
    have hload := (ih (normal_classVar_iff.mp hn) hname).load
    refine lighter_of_weight ?_ ?_
    · rw [bare_classVar, typeName_classVar (nameable_bare hname), typeName_classVar hname,
        TypeName.weight_eq, TypeName.weight_eq]
      show (bare h).typeName.load + 0 ≤ h.typeName.load + 0
      omega
    · rw [bare_classVar, typeName_classVar (nameable_bare hname), typeName_classVar hname]

/-! ### equal names -/

/-- whether a hint has the same name without its markers, `None` beside it apart unless nothing
else is left of it -/
structure NamedAlike (h : Hint) : Prop where
  optional : (bare h).typeName.optional = h.typeName.optional
  none : bare h = none → (bare h).typeName = h.typeName

theorem namedAlike_of_eq (h : Hint) (e : (bare h).typeName = h.typeName) : NamedAlike h :=
  ⟨congrArg TypeName.optional e, fun _ => e⟩

theorem args_eq_of_namedAlike (hk : NamedAlike h) :
    (bare h).typeName.args = h.typeName.args := by
  show (bare h).typeName.optional.args = h.typeName.optional.args
  rw [hk.optional]

theorem weight_eq_of_namedAlike (hk : NamedAlike h) :
    (bare h).typeName.weight = h.typeName.weight := by
  rw [TypeName.weight_eq, TypeName.weight_eq, args_eq_of_namedAlike hk]

theorem namedAlike_of_map_typeName (e : (hs.map bare).map typeName = hs.map typeName) :
    ∀ h ∈ hs, NamedAlike h := by
  rw [List.map_map, List.map_inj_left] at e
  exact fun h hmem => namedAlike_of_eq h (e h hmem)

theorem map_typeName_of_own (hn : ∀ p ∈ ps, p.Normal) (hname : ∀ p ∈ ps, p.Nameable)
    (e : TypeName.ofCallable.own ((ps.map bare).map typeName) =
      TypeName.ofCallable.own (ps.map typeName)) :
    (ps.map bare).map typeName = ps.map typeName := by
  by_cases hone : ps.length = 1
  · obtain ⟨p, rfl⟩ := List.length_eq_one_iff.mp hone
    have hp := List.mem_singleton_self p
    show [(bare p).typeName] = [p.typeName]
    have e : TypeName.ofCallable.own [(bare p).typeName] =
        TypeName.ofCallable.own [p.typeName] := e
    cases hstands : p.typeName.standsAlone with
    | true =>
      rw [TypeName.own_of_standsAlone hstands,
        TypeName.own_of_standsAlone (standsAlone_bare (hn p hp) (hname p hp) hstands)] at e
      rw [e]
    | false =>
      rw [TypeName.own_of_not_standsAlone hstands] at e
      cases hstands' : (bare p).typeName.standsAlone with
      | true =>
        have hload := (lighter (hn p hp) (hname p hp)).load
        have hparams : (TypeName.parameters [p.typeName]).load = 1 + (p.typeName.load + 0) :=
          TypeName.load_parameters _
        rw [TypeName.own_of_standsAlone hstands'] at e
        rw [e] at hload
        omega
      | false =>
        rw [TypeName.own_of_not_standsAlone hstands'] at e
        exact congrArg TypeName.args e
  · have hmap : (ps.map typeName).length ≠ 1 := by rwa [List.length_map]
    have hmap' : ((ps.map bare).map typeName).length ≠ 1 := by
      rwa [List.length_map, List.length_map]
    rw [TypeName.own_of_length hmap, TypeName.own_of_length hmap'] at e
    exact congrArg TypeName.args e

/-- a union that is named alike keeps its members, and these are named alike -/
theorem keepsMembers_of_namedAlike (hn : (union hs).Normal) (hname : (union hs).Nameable)
    (hk : NamedAlike (union hs)) : KeepsMembers hs ∧ ∀ h ∈ nonNone hs, NamedAlike h := by
  obtain ⟨-, hsummands⟩ := normal_union_iff.mp hn
  have hnames := nameable_union_iff.mp hname
  by_cases hone : (nonNone hs).length = 1
  · obtain ⟨h, hone'⟩ := List.length_eq_one_iff.mp hone
    have hwith := typeName_union_of_nonNone hone' hn hname
    have hbare : bare h ≠ none := by
      intro hb
      have hnone := bare_eq_none_of_nonNone hone' hn hb
      have e := hk.none hnone
      rw [hnone, hwith] at e
      exact Bool.false_ne_true (congrArg TypeName.nullable e)
    have hwithout := typeName_bare_of_nonNone hone' hn hname hbare
    refine ⟨⟨?_, .inl hone⟩, ?_⟩
    · intro k hmem hb
      by_contra hne
      have hkh : k ∈ nonNone hs := mem_nonNone.mpr ⟨hmem, hne⟩
      rw [hone', List.mem_singleton] at hkh
      exact hbare (hkh ▸ hb)
    · rw [hone']
      refine List.forall_mem_singleton.mpr ⟨?_, fun hb => absurd hb hbare⟩
      have e := hk.optional
      rwa [hwith, hwithout] at e
  · have hl : ∀ h ∈ hs, Lighter h := fun h hmem =>
      lighter (hsummands.normal h hmem) (hnames h hmem)
    rcases weight_lt_or_keptApart hn hname hl hone with hlt | ⟨-, hsome, hapart⟩
    · -- a name that stays the same gets no lighter
      have heq := weight_eq_of_namedAlike hk
      omega
    · have e := args_eq_of_namedAlike hk
      rw [typeName_bare_of_keptApart hsome hapart hn hname, typeName_union hnames,
        TypeName.args_ofMembers (by rwa [List.length_map]),
        TypeName.args_ofMembers (by rwa [List.length_map]), List.map_inj_left] at e
      exact ⟨⟨hsome, .inr hapart⟩, fun h hmem => namedAlike_of_eq h (e h hmem)⟩

theorem keepsUnions_of_namedAlike (hn : h.Normal) (hname : h.Nameable) (hk : NamedAlike h) :
    h.KeepsUnions := by
  induction h using ind with
  | atomic h ha => exact .atomic ha
  | union hs ih =>
    obtain ⟨-, hsummands⟩ := normal_union_iff.mp hn
    obtain ⟨hmembers, hall⟩ := keepsMembers_of_namedAlike hn hname hk
    refine .union hmembers fun h hmem => ?_
    by_cases hne : h = none
    · exact hne ▸ .atomic rfl
    · exact ih h hmem (hsummands.normal h hmem) (nameable_union_iff.mp hname h hmem)
        (hall h (mem_nonNone.mpr ⟨hmem, hne⟩))
  | generic c hs ih =>
    rw [normal_generic_iff] at hn
    rw [nameable_generic_iff] at hname
    have e := args_eq_of_namedAlike hk
    rw [bare_generic, typeName_generic (nameable_of_mem_map_bare hname), typeName_generic hname]
      at e
    have hall := namedAlike_of_map_typeName e
    exact .generic fun h hmem => ih h hmem (hn h hmem) (hname h hmem) (hall h hmem)
  | callable ps r ihp ihr =>
    obtain ⟨hnp, hnr⟩ := normal_callable_iff.mp hn
    obtain ⟨hps, hr⟩ := nameable_callable_iff.mp hname
    have e := args_eq_of_namedAlike hk
    rw [bare_callable, typeName_callable (nameable_of_mem_map_bare hps) (nameable_bare hr),
      typeName_callable hps hr] at e
    obtain ⟨hown, her⟩ := List.cons_eq_cons.mp e
    have hall := namedAlike_of_map_typeName (map_typeName_of_own hnp hps hown)
    refine .callable (fun p hmem => ihp p hmem (hnp p hmem) (hps p hmem) (hall p hmem)) ?_
    exact ihr hnr hr (namedAlike_of_eq r (List.cons_eq_cons.mp her).1)
  | annotated h ms ih =>
    refine .annotated (ih (normal_annotated_iff.mp hn) (nameable_annotated_iff.mp hname) ?_)
    constructor
    · have e := hk.optional
      rwa [bare_annotated, typeName_annotated] at e
    · have e := hk.none
      rwa [bare_annotated, typeName_annotated] at e
  | list hs _ => exact .list hs
  | classVar h ih =>
    have hname := nameable_classVar_iff.mp hname
    have e := args_eq_of_namedAlike hk
    rw [bare_classVar, typeName_classVar (nameable_bare hname), typeName_classVar hname] at e
    exact .classVar (ih (normal_classVar_iff.mp hn) hname
      (namedAlike_of_eq h (List.cons_eq_cons.mp e).1))

/-- The name of a hint is the same without its markers exactly if the hint keeps its unions. -/
theorem typeName_bare_iff (hn : h.Normal) (hname : h.Nameable) :
    (bare h).typeName = h.typeName ↔ h.KeepsUnions :=
  ⟨fun e => keepsUnions_of_namedAlike hn hname (namedAlike_of_eq h e),
    fun hk => typeName_bare hk hn hname⟩

end Hint
end RowMapping
