import RowMapping.Property
import RowMapping.Proofs.Hint.Spine
import RowMapping.Proofs.Hint.Weight

/-!
# Markers of declarations

A declaration says how its property maps to a column by the markers on the spine of its hint and
by those given beside it.  Of each kind the last one counts, an adapter beside a factory is
refused, and it makes no difference whether markers stand beside a hint or on a layer around it.

* `markedColumn_eq`, `markedAdapter_eq`, `markedFactory_eq`  the last marker of each kind;
* `declaredAs_ofDeclaration`  what a declaration gives, by its markers and what they stand on;
* `ofDeclaration_annotated`  a layer around a hint, or its markers beside the hint;
* `collects_markers`  all of this, for every hint that is built from layers and unions.
-/

namespace RowMapping

/-! ### the last marker of a kind -/

namespace Marker

def column? : Marker → Option String
  | column name => some name
  | _ => none

def adapter? : Marker → Option ClassRef
  | adapter cls => some cls
  | _ => none

def factory? : Marker → Option ClassRef
  | factory cls => some cls
  | _ => none

end Marker

namespace Property

theorem eq_getLast?_of_or {α : Type} {kind? : Marker → Option α} {last? : List Marker → Option α}
    (hnil : last? [] = none) (hcons : ∀ m ms, last? (m :: ms) = (last? ms).or (kind? m))
    (ms : List Marker) : last? ms = (ms.filterMap kind?).getLast? := by
  induction ms with
  | nil => exact hnil
  | cons m ms ih =>
    rw [hcons, ih]
    cases hkind : kind? m with
    | none => rw [List.filterMap_cons_none hkind, Option.or_none]
    | some a =>
      rw [List.filterMap_cons_some hkind, List.getLast?_cons]
      cases (ms.filterMap kind?).getLast? <;> rfl

theorem isSome_getLast?_iff {α : Type} {as : List α} :
    as.getLast?.isSome = true ↔ ∃ a, a ∈ as := by
  cases as with
  | nil => exact ⟨nofun, nofun⟩
  | cons a as =>
    rw [List.getLast?_cons]
    exact ⟨fun _ => ⟨a, List.mem_cons_self⟩, fun _ => rfl⟩

theorem exists_mem_filterMap_iff {α : Type} {kind? : Marker → Option α} {mk : α → Marker}
    (hkind : ∀ m a, kind? m = some a ↔ m = mk a) (ms : List Marker) :
    (∃ a, a ∈ ms.filterMap kind?) ↔ ∃ a, mk a ∈ ms := by
  refine exists_congr fun a => ?_
  rw [List.mem_filterMap]
  constructor
  · rintro ⟨m, hm, ha⟩
    exact (hkind m a).mp ha ▸ hm
  · exact fun hm => ⟨mk a, hm, (hkind _ a).mpr rfl⟩

variable (ms : List Marker)

theorem markedColumn_eq : markedColumn ms = (ms.filterMap Marker.column?).getLast? :=
  eq_getLast?_of_or rfl (fun m ms => by cases m <;> simp [markedColumn, Marker.column?]) ms

theorem markedAdapter_eq : markedAdapter ms = (ms.filterMap Marker.adapter?).getLast? :=
  eq_getLast?_of_or rfl (fun m ms => by cases m <;> simp [markedAdapter, Marker.adapter?]) ms

theorem markedFactory_eq : markedFactory ms = (ms.filterMap Marker.factory?).getLast? :=
  eq_getLast?_of_or rfl (fun m ms => by cases m <;> simp [markedFactory, Marker.factory?]) ms

theorem isSome_markedAdapter_iff : (markedAdapter ms).isSome = true ↔ ∃ cls, .adapter cls ∈ ms := by
  rw [markedAdapter_eq, isSome_getLast?_iff]
  exact exists_mem_filterMap_iff (fun m _ => by cases m <;> simp [Marker.adapter?]) ms

theorem isSome_markedFactory_iff : (markedFactory ms).isSome = true ↔ ∃ cls, .factory cls ∈ ms := by
  rw [markedFactory_eq, isSome_getLast?_iff]
  exact exists_mem_filterMap_iff (fun m _ => by cases m <;> simp [Marker.factory?]) ms

end Property

/-! ### nullable hints -/

theorem Hint.nullable_of_isLeaf {h : Hint} (hleaf : h.isLeaf = true) (hname : h.Nameable) :
    h.typeName.nullable = false := by
  cases h with
  | annotated _ _ => cases hleaf
  | union _ => cases hleaf
  | generic c hs =>
    rw [typeName_generic (nameable_generic_iff.mp hname)]
    rfl
  | callable ps r =>
    obtain ⟨hps, hr⟩ := nameable_callable_iff.mp hname
    rw [typeName_callable hps hr]
    rfl
  | list hs =>
    rw [typeName_list (nameable_list_iff.mp hname)]
    rfl
  | classVar h => rw [typeName_classVar (nameable_classVar_iff.mp hname)]
  | _ => exact nullable_of_atomic rfl

/-- a leaf or a union of leaves is nullable exactly if it is a union with `None` -/
theorem Hint.nullable_iff_of_ofLeaves {h : Hint} (hleaves : h.OfLeaves) (hname : h.Nameable) :
    h.typeName.nullable = true ↔ ∃ hs, h = .union hs ∧ .none ∈ hs := by
  cases hleaf : h.isLeaf with
  | true =>
    rw [nullable_of_isLeaf hleaf hname]
    refine ⟨nofun, ?_⟩
    rintro ⟨hs, rfl, -⟩
    cases hleaf
  | false =>
    cases h with
    | annotated h ms => exact absurd (hleaves _ List.mem_cons_self).2 nofun
    | union hs =>
      rw [typeName_union (nameable_union_iff.mp hname), TypeName.nullable_ofMembers, any_isNone_iff]
      exact ⟨fun hnone => ⟨hs, rfl, hnone⟩, fun ⟨_, heq, hnone⟩ => by cases heq; exact hnone⟩
    | _ => cases hleaf

namespace Property

/-! ### declarations -/

/-- What a declaration gives, by the hint that its markers stand on and by all markers. -/
structure DeclaredAs (owner name : String) (bare : Hint) (markers : List Marker)
    (result : Except Failure Property) : Prop where
  /-- A hint that has no name is refused. -/
  unnamed : ∀ e, TypeName.ofHint bare = .error e → result = .error (.hint e)
  /-- So is an adapter beside a factory. -/
  conflict : result = .error (.conflict name (siteOf owner name)) ↔
    bare.Nameable ∧ (∃ cls, .adapter cls ∈ markers) ∧ ∃ cls, .factory cls ∈ markers
  exists_ok : bare.Nameable →
    ¬ ((∃ cls, .adapter cls ∈ markers) ∧ ∃ cls, .factory cls ∈ markers) → ∃ p, result = .ok p
  named : ∀ p, result = .ok p →
    p.name = name ∧ p.site = siteOf owner name ∧ TypeName.ofHint bare = .ok p.type
  marked : ∀ p, result = .ok p →
    p.columnOverride = (markers.filterMap Marker.column?).getLast? ∧
      p.adapter? = (markers.filterMap Marker.adapter?).getLast? ∧
      p.factory? = (markers.filterMap Marker.factory?).getLast?
  nullable : ∀ p, result = .ok p →
    (p.nullable = true ↔ ∃ hs, bare = .union hs ∧ .none ∈ hs)

variable {owner name : String} {h : Hint} {markers : List Marker}

theorem ofDeclaration_of_error {e : HintError} (htype : TypeName.ofHint h.split.1 = .error e) :
    ofDeclaration owner name h markers = .error (.hint e) := by
  unfold ofDeclaration
  simp only [htype]

theorem ofDeclaration_of_ok {type : TypeName} (htype : TypeName.ofHint h.split.1 = .ok type) :
    ofDeclaration owner name h markers =
      converted { name := name, type := type, columnOverride := markedColumn (h.split.2 ++ markers),
                  nullable := type.nullable, site := siteOf owner name }
        (markedAdapter (h.split.2 ++ markers)) (markedFactory (h.split.2 ++ markers)) := by
  unfold ofDeclaration
  simp only [htype]

theorem converted_eq_conflict_iff {p : Property} {adapter factory : Option ClassRef} :
    p.converted adapter factory = .error (.conflict p.name p.site) ↔
      adapter.isSome = true ∧ factory.isSome = true := by
  cases adapter <;> cases factory <;> simp [converted, Conversion.ofClasses]

theorem exists_converted {p : Property} {adapter factory : Option ClassRef}
    (h : ¬ (adapter.isSome = true ∧ factory.isSome = true)) :
    ∃ q, p.converted adapter factory = .ok q := by
  cases adapter <;> cases factory <;> simp_all [converted, Conversion.ofClasses]

theorem of_converted_eq_ok {p q : Property} {adapter factory : Option ClassRef}
    (h : p.converted adapter factory = .ok q) :
    q = { p with conversion := q.conversion } ∧ q.adapter? = adapter ∧ q.factory? = factory := by
  unfold converted at h
  cases adapter <;> cases factory <;> cases h <;> exact ⟨rfl, rfl, rfl⟩

theorem declaredAs_ofDeclaration (hleaves : h.split.1.OfLeaves) :
    DeclaredAs owner name h.split.1 (h.split.2 ++ markers) (ofDeclaration owner name h markers) := by
  generalize hall : h.split.2 ++ markers = all
  cases htype : TypeName.ofHint h.split.1 with
  | error e =>
    have hunnamed : ¬ h.split.1.Nameable := fun ⟨t, ht⟩ => by cases htype.symm.trans ht
    rw [ofDeclaration_of_error htype]
    refine ⟨fun e' he => ?_, ⟨nofun, fun hnamed => absurd hnamed.1 hunnamed⟩,
      fun hnamed => absurd hnamed hunnamed, nofun, nofun, nofun⟩
    rw [htype] at he
    rw [Except.error.inj he]
  | ok type =>
    have hname : h.split.1.Nameable := ⟨type, htype⟩
    have hnullable := Hint.nullable_iff_of_ofLeaves hleaves hname
    rw [Hint.typeName_eq htype] at hnullable
    rw [ofDeclaration_of_ok htype, hall]
    have hboth : (markedAdapter all).isSome = true ∧ (markedFactory all).isSome = true ↔
        (∃ cls, .adapter cls ∈ all) ∧ ∃ cls, .factory cls ∈ all := by
      rw [isSome_markedAdapter_iff, isSome_markedFactory_iff]
    refine ⟨fun e he => ?_, converted_eq_conflict_iff.trans ?_,
      fun _ hapart => exists_converted (mt hboth.mp hapart), fun q hq => ?_, fun q hq => ?_,
      fun q hq => ?_⟩
    · cases htype.symm.trans he
    · rw [hboth, and_iff_right hname]
    · rw [(of_converted_eq_ok hq).1]
      exact ⟨rfl, rfl, htype⟩
    · obtain ⟨heq, hadapter, hfactory⟩ := of_converted_eq_ok hq
      refine ⟨?_, hadapter.trans (markedAdapter_eq all), hfactory.trans (markedFactory_eq all)⟩
      rw [heq]
      exact markedColumn_eq all
    · rw [(of_converted_eq_ok hq).1]
      exact hnullable

/-! ### layers around a hint -/

/-- the markers of a layer count as those that stand right beside the hint under it -/
theorem ofDeclaration_annotated (owner name : String) (inner : Hint) (ms markers : List Marker) :
    ofDeclaration owner name (.annotated inner ms) markers
      = ofDeclaration owner name inner (ms ++ markers) := by
  unfold ofDeclaration
  simp only [Hint.split_annotated, List.append_assoc]

theorem ofDeclaration_annotate (owner name : String) (hnamed : h.named = h)
    (markers : List Marker) :
    ofDeclaration owner name (h.annotate markers) [] = ofDeclaration owner name h markers := by
  unfold Hint.annotate
  rw [hnamed]
  split
  next k inner =>
    rw [ofDeclaration_annotated, ofDeclaration_annotated, List.append_nil]
  next => rw [ofDeclaration_annotated, List.append_nil]

/-- A hint that is built from layers and unions gives off each marker of its spine once: what is
inside before what is around it, and members from left to right.  What is left has no layer on its
spine, and the leaves of the spine as its members.  Together with markers beside the hint they
decide on the property: the last one of each kind counts, an adapter and a factory conflict, and
only a union with `None` is nullable.  The markers beside the hint may as well be put on a layer
around it.  Only a quoted name by itself is shown differently there. -/
theorem collects_markers (hl : h.Layered) :
    (∃ spots : List Spot, spots.Nodup ∧ spots.Pairwise Spot.Before ∧
      (∀ s, s ∈ spots ↔ (h.marker? s).isSome = true) ∧
      spots.map h.marker? = h.split.2.map some) ∧
    ((∀ path, h.split.1.layer? path = none) ∧
      Hint.distinct h.split.1.members = Hint.distinct h.leaves) ∧
    (∀ owner name markers, DeclaredAs owner name h.split.1 (h.split.2 ++ markers)
      (ofDeclaration owner name h markers)) ∧
    (∀ owner name markers, (∀ n e, h ≠ .text n e) →
      ofDeclaration owner name (h.annotate markers) [] = ofDeclaration owner name h markers) ∧
    ∀ n e, h = .text n e → ∀ owner name markers,
      ofDeclaration owner name h markers = .error (.hint (.unresolved (Text.shown n))) ∧
      ofDeclaration owner name (h.annotate markers) []
        = .error (.hint (.unresolved (shownForward n))) := by
  have hsorted : (h.spine.map (·.1)).Pairwise Spot.Before :=
    List.pairwise_map.mpr (Hint.pairwise_spine h)
  have hnodup : (h.spine.map (·.1)).Nodup := hsorted.imp Spot.Before.ne
  refine ⟨⟨h.spine.map (·.1), hnodup, hsorted, fun s => ?_, ?_⟩,
    ⟨hl.ofLeaves_split.layer?_eq_none, hl.distinct_members_split⟩,
    fun _ _ _ => declaredAs_ofDeclaration hl.ofLeaves_split, fun owner name markers htext => ?_, ?_⟩
  · rw [List.mem_map, Option.isSome_iff_exists]
    constructor
    · rintro ⟨⟨s, m⟩, hx, rfl⟩
      exact ⟨m, (Hint.mem_spine h s m).mp hx⟩
    · rintro ⟨m, hm⟩
      exact ⟨(s, m), (Hint.mem_spine h s m).mpr hm, rfl⟩
  · rw [← Hint.map_snd_spine, List.map_map, List.map_map]
    exact List.map_congr_left fun x hx => (Hint.mem_spine h x.1 x.2).mp hx
  · rcases Hint.text_or_named h with ⟨n, e, rfl⟩ | hnamed
    · exact absurd rfl (htext n e)
    · exact ofDeclaration_annotate owner name hnamed markers
  · rintro n e rfl owner name markers
    exact ⟨rfl, rfl⟩

/-! ### an optional column, and a quoted name -/

/-- an optional text with a column inside and another one around it -/
def optionalText : Hint :=
  .annotated (.union [.annotated (.cls (.builtin "str")) [.column "inner"], .none])
    [.column "outer"]

theorem layered_optionalText : optionalText.Layered := by
  refine .annotated (List.cons_ne_nil _ _) (.union ?_ ?_ (by decide))
  · exact List.forall_mem_cons.mpr ⟨rfl, List.forall_mem_singleton.mpr rfl⟩
  · refine List.forall_mem_cons.mpr ⟨.annotated (List.cons_ne_nil _ _) (.leaf rfl), ?_⟩
    exact List.forall_mem_singleton.mpr (.leaf rfl)

theorem split_optionalText : optionalText.split =
    (.union [.cls (.builtin "str"), .none], [.column "inner", .column "outer"]) := by
  simp [optionalText, Hint.split, Hint.splitAll, Hint.unionOf, Hint.members, Hint.named,
    Hint.distinct, Hint.same, Hint.ofMembers]

/-- the column that stands around the hint counts, and the property is nullable -/
theorem collects_optionalText :
    optionalText.Layered ∧
      ∃ p, ofDeclaration "" "email" optionalText [] = .ok p ∧ p.columnOverride = some "outer" ∧
        p.nullable = true := by
  obtain ⟨-, -, hdeclared, -⟩ := collects_markers layered_optionalText
  have hresult := hdeclared "" "email" []
  rw [split_optionalText] at hresult
  have hname : (Hint.union [.cls (.builtin "str"), .none]).Nameable := ⟨_, rfl⟩
  obtain ⟨p, hp⟩ := hresult.exists_ok hname (by simp)
  refine ⟨layered_optionalText, p, hp, (hresult.marked p hp).1, (hresult.nullable p hp).mpr ?_⟩
  exact ⟨_, rfl, List.mem_cons_of_mem _ List.mem_cons_self⟩

/-- A quoted name by itself is refused as it stands, but under a layer as a forward reference. -/
theorem not_declares_annotated_text :
    (Hint.text "X").Layered ∧ [Marker.column "c"] ≠ [] ∧
      ofDeclaration "" "a" ((Hint.text "X").annotate [.column "c"]) []
        ≠ ofDeclaration "" "a" (.text "X") [.column "c"] := by
  refine ⟨.leaf rfl, List.cons_ne_nil _ _, fun heq => ?_⟩
  have hshown : shownForward "X" = Text.shown "X" :=
    HintError.unresolved.inj (Failure.hint.inj (Except.error.inj heq))
  exact absurd hshown (by decide +kernel)

end Property
end RowMapping
