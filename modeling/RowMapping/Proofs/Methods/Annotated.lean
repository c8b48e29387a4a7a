import RowMapping.Proofs.Correspondence
import RowMapping.Proofs.Hint.Names
import RowMapping.Proofs.Methods.Visible

/-!
# Adapters annotated like their property

A property takes its type from its hint with the markers at the top taken off, and a method takes
the types of its parameters and its result from their hints with all markers dropped.  The method
of an adapter that is annotated with the hint of the property itself is therefore accepted exactly
if the hint keeps its unions.

* `same_declared_iff`  the types that a property and a method get from one hint;
* `accepts_annotated_iff`  and what it means for adapters that repeat the hint of the property.
-/

namespace RowMapping

/-! ### names of hints -/

namespace TypeName

theorem aliased_nil_iff {t : TypeName} :
    t.aliased [] = t ↔ t.localName = none ∧ ∀ u ∈ t.args, u.aliased [] = u := by
  obtain ⟨name, module, args, nullable, localName⟩ := t
  have hargs : args.map (aliased []) = args ↔ ∀ u ∈ args, u.aliased [] = u := by
    conv_lhs => rhs; rw [← List.map_id args]
    exact List.map_inj_left
  rw [aliased, aliasedAll_eq_map, mk.injEq, hargs]
  constructor
  · rintro ⟨-, -, hargs, -, rfl⟩
    exact ⟨rfl, hargs⟩
  · rintro ⟨rfl, hargs⟩
    exact ⟨rfl, rfl, hargs, rfl, rfl⟩

theorem aliased_parameters {ts : List TypeName} (h : ∀ t ∈ ts, t.aliased [] = t) :
    (parameters ts).aliased [] = parameters ts := aliased_nil_iff.mpr ⟨rfl, h⟩

theorem aliased_ofMembers {b : Bool} {ts : List TypeName} (h : ∀ t ∈ ts, t.aliased [] = t) :
    (ofMembers b ts).aliased [] = ofMembers b ts := by
  match ts, h with
  | [t], h =>
    obtain ⟨hlocal, hargs⟩ := aliased_nil_iff.mp (h t List.mem_cons_self)
    exact aliased_nil_iff.mpr ⟨hlocal, hargs⟩
  | [], h => exact aliased_nil_iff.mpr ⟨rfl, h⟩
  | t :: u :: rest, h => exact aliased_nil_iff.mpr ⟨rfl, h⟩

theorem aliased_own {ts : List TypeName} (h : ∀ t ∈ ts, t.aliased [] = t) :
    (ofCallable.own ts).aliased [] = ofCallable.own ts := by
  by_cases hone : ts.length = 1
  · obtain ⟨t, rfl⟩ := List.length_eq_one_iff.mp hone
    cases hstands : t.standsAlone with
    | true =>
      rw [own_of_standsAlone hstands]
      exact h t List.mem_cons_self
    | false =>
      rw [own_of_not_standsAlone hstands]
      exact aliased_parameters h
  · rw [own_of_length hone]
    exact aliased_parameters h

theorem aliased_ofScalar {v : Scalar} {t : TypeName} (h : ofScalar v = .ok t) :
    t.aliased [] = t := by
  cases v with
  | none =>
    cases h
    rfl
  | _ => cases h

end TypeName

namespace Hint

theorem aliased_typeName_of_atomic {h : Hint} (ha : h.atomic = true) :
    h.typeName.aliased [] = h.typeName := by
  cases h with
  | literal vs =>
    unfold typeName
    rw [TypeName.ofHint]
    cases hvs : vs.mapM TypeName.ofScalar with
    | error e => rfl
    | ok ts =>
      refine TypeName.aliased_nil_iff.mpr ⟨rfl, fun t ht => ?_⟩
      obtain ⟨v, -, hv⟩ := exists_left_of_forall₂ (forall₂_of_mapM_eq_ok hvs) ht
      exact TypeName.aliased_ofScalar hv
  | union _ | generic _ _ | callable _ _ | annotated _ _ | list _ | classVar _ => cases ha
  | _ =>
    simp only [typeName, TypeName.ofHint]
    rfl

theorem aliased_typeName {h : Hint} (hname : h.Nameable) : h.typeName.aliased [] = h.typeName := by
  induction h using ind with
  | atomic h ha => exact aliased_typeName_of_atomic ha
  | union hs ih =>
    have hnames := nameable_union_iff.mp hname
    rw [typeName_union hnames]
    refine TypeName.aliased_ofMembers (List.forall_mem_map.mpr fun h hmem => ?_)
    obtain ⟨hmem, -⟩ := mem_nonNone.mp hmem
    exact ih h hmem (hnames h hmem)
  | generic c hs ih =>
    rw [nameable_generic_iff] at hname
    rw [typeName_generic hname, TypeName.aliased_nil_iff]
    exact ⟨rfl, List.forall_mem_map.mpr fun h hmem => ih h hmem (hname h hmem)⟩
  | callable ps r ihp ihr =>
    obtain ⟨hps, hr⟩ := nameable_callable_iff.mp hname
    have hparams : ∀ t ∈ ps.map typeName, t.aliased [] = t :=
      List.forall_mem_map.mpr fun p hmem => ihp p hmem (hps p hmem)
    rw [typeName_callable hps hr, TypeName.aliased_nil_iff]
    refine ⟨rfl, List.forall_mem_cons.mpr ⟨TypeName.aliased_own hparams, ?_⟩⟩
    exact List.forall_mem_singleton.mpr (ihr hr)
  | annotated h ms ih =>
    rw [typeName_annotated]
    exact ih (nameable_annotated_iff.mp hname)
  | list hs ih =>
    rw [nameable_list_iff] at hname
    rw [typeName_list hname]
    exact TypeName.aliased_parameters
      (List.forall_mem_map.mpr fun h hmem => ih h hmem (hname h hmem))
  | classVar h ih =>
    have hname := nameable_classVar_iff.mp hname
    rw [typeName_classVar hname, TypeName.aliased_nil_iff]
    exact ⟨rfl, List.forall_mem_singleton.mpr (ih hname)⟩

theorem same_typeName_iff {h k : Hint} (hh : h.Nameable) (hk : k.Nameable) :
    h.typeName.same k.typeName = true ↔ h.typeName = k.typeName := by
  rw [TypeName.same_iff, aliased_typeName hh, aliased_typeName hk]

/-- one hint gives a property and a method the same type exactly if it keeps its unions -/
theorem same_declared_iff {a : Hint} (hn : a.Normal) (hname : a.Nameable) :
    a.split.1.typeName.same (bare a).typeName = true ↔ a.split.1.KeepsUnions := by
  have hsplit := nameable_split hname
  rw [same_typeName_iff hsplit (nameable_bare hname), ← bare_split hn hname, eq_comm,
    typeName_bare_iff (normal_split hn hname) hsplit]

end Hint

/-! ### adapter methods with the hint of a property -/

namespace FunctionInfo

/-- the function of a method that reads what a hint says -/
structure ReadsAs (f : FunctionInfo) (settings : Settings) (a : Hint) : Prop where
  sound : f.brokenSignature = false
  resolved : ∀ h ∈ f.hints, h.dangling? = none
  takes : paramTypes? f.boundParams = some [settings.rowStoreType, .str]
  returns : f.returns = some a

/-- the function of a method that writes what a hint says -/
structure WritesAs (f : FunctionInfo) (settings : Settings) (a : Hint) : Prop where
  sound : f.brokenSignature = false
  resolved : ∀ h ∈ f.hints, h.dangling? = none
  takes : ∃ cells value, f.boundParams = cells ++ [value] ∧
    paramTypes? cells = some [settings.cellMapType, .str] ∧
    value.isVariadic = false ∧ value.hint = some a
  returns : typeOf? f.returns = some .noneType

theorem shape?_eq {f : FunctionInfo} (hsound : f.brokenSignature = false)
    (hresolved : ∀ h ∈ f.hints, h.dangling? = none) (params : List Param) :
    f.shape? params =
      (paramTypes? params).bind fun ts => (typeOf? f.returns).map fun r => (ts, r) := by
  have hany : f.hints.any (·.dangling?.isSome) = false := by
    rw [List.any_eq_false]
    intro h hmem
    rw [hresolved h hmem]
    decide
  rw [shape?, hsound, hany]
  rfl

theorem typeOf?_of_nameable {a : Hint} (hname : a.Nameable) :
    typeOf? (some a) = some (Hint.bare a).typeName := by
  rw [typeOf?, Option.bind_some, Hint.ofHint_eq (Hint.nameable_bare hname)]
  rfl

theorem paramTypes?_concat {params : List Param} {p : Param} {ts : List TypeName} {t : TypeName}
    (hparams : paramTypes? params = some ts) (hp : p.isVariadic = false)
    (ht : typeOf? p.hint = some t) : paramTypes? (params ++ [p]) = some (ts ++ [t]) := by
  induction params generalizing ts with
  | nil =>
    cases hparams
    rw [List.nil_append, paramTypes?, hp, ht]
    rfl
  | cons q params ih =>
    rw [paramTypes?] at hparams
    cases hq : q.isVariadic with
    | true =>
      rw [hq] at hparams
      cases hparams
    | false =>
      rw [hq] at hparams
      obtain ⟨u, hu, hparams⟩ := Option.bind_eq_some_iff.mp hparams
      obtain ⟨us, hus, rfl⟩ := Option.map_eq_some_iff.mp hparams
      rw [List.cons_append, paramTypes?, hq, hu, ih hus]
      rfl

end FunctionInfo

/-- the type of a declared property is that of its hint without the markers at the top -/
theorem type_of_ofDeclaration {owner name : String} {hint : Hint} {markers : List Marker}
    {p : Property} (h : Property.ofDeclaration owner name hint markers = .ok p) :
    TypeName.ofHint hint.split.1 = .ok p.type := by
  unfold Property.ofDeclaration at h
  cases htype : TypeName.ofHint hint.split.1 with
  | error e =>
    simp only [htype] at h
    cases h
  | ok type =>
    simp only [htype] at h
    unfold Property.converted at h
    split at h
    · cases h
      rfl
    · cases h

namespace ClassTable
variable {t : ClassTable} {settings : Settings} {cls : ClassRef}

/-- only the attribute of its name can be the method that a shape asks for -/
theorem hasMethod_iff_of_visible {a : Attribute} {method : Method} {s : Shape}
    (hvisible : a ∈ t.visibleAttributes cls) (hmethod : a.method? (.ofClass cls) = some method)
    (hname : s.name = some a.name) :
    t.directory.hasMethod cls s = true ↔ method.fits s = true := by
  have hmem : method ∈ t.shownMethods cls := List.mem_filterMap.mpr ⟨a, hvisible, hmethod⟩
  have hown : method.name = a.name := (Attribute.method?_eq_some_iff.mp hmethod).2.1
  rw [hasMethod_iff_of_mem hmem, or_iff_left]
  rintro ⟨other, -, hother, hfits⟩
  have hnamed : a.name = other.name := (Method.fits_iff.mp hfits).1 a.name hname
  exact hother (hnamed.symm.trans hown.symm)

variable {a : Hint} {f : FunctionInfo} {type : TypeName}

/-- a read method with the hint of a property is accepted for the type that it returns -/
theorem hasMethod_readShape_iff (hname : a.Nameable) (hf : f.ReadsAs settings a)
    (hvisible : ⟨settings.adapter.readMethod, .instance f⟩ ∈ t.visibleAttributes cls) :
    (t.mapping settings).directory.hasMethod cls ((t.mapping settings).readShape type) = true ↔
      (Hint.bare a).typeName.same type = true := by
  have hmethod : Attribute.method? (.ofClass cls) ⟨settings.adapter.readMethod, .instance f⟩ =
      some { owner := .ofClass cls, name := settings.adapter.readMethod
             params := [settings.rowStoreType, .str], returns := (Hint.bare a).typeName } := by
    rw [Attribute.method?, Member.shape?, FunctionInfo.shape?_eq hf.sound hf.resolved, hf.takes,
      hf.returns, FunctionInfo.typeOf?_of_nameable hname]
    rfl
  refine (hasMethod_iff_of_visible hvisible hmethod rfl).trans ?_
  rw [Method.fits_iff, TypeName.same_iff]
  constructor
  · rintro ⟨-, -, -, hreturns⟩
    exact hreturns
  · intro hreturns
    refine ⟨?_, rfl, rfl, hreturns⟩
    rintro name ⟨⟩
    rfl

theorem hasMethod_writeShape_iff (hname : a.Nameable) (hf : f.WritesAs settings a)
    (hvisible : ⟨settings.adapter.writeMethod, .instance f⟩ ∈ t.visibleAttributes cls) :
    (t.mapping settings).directory.hasMethod cls ((t.mapping settings).writeShape type) = true ↔
      (Hint.bare a).typeName.same type = true := by
  obtain ⟨cells, value, hbound, hcells, hvariadic, hvalue⟩ := hf.takes
  have htakes : FunctionInfo.paramTypes? f.boundParams =
      some [settings.cellMapType, .str, (Hint.bare a).typeName] := by
    rw [hbound]
    exact FunctionInfo.paramTypes?_concat hcells hvariadic
      (hvalue ▸ FunctionInfo.typeOf?_of_nameable hname)
  have hmethod : Attribute.method? (.ofClass cls) ⟨settings.adapter.writeMethod, .instance f⟩ =
      some { owner := .ofClass cls, name := settings.adapter.writeMethod
             params := [settings.cellMapType, .str, (Hint.bare a).typeName]
             returns := .noneType } := by
    rw [Attribute.method?, Member.shape?, FunctionInfo.shape?_eq hf.sound hf.resolved, htakes,
      hf.returns]
    rfl
  refine (hasMethod_iff_of_visible hvisible hmethod rfl).trans ?_
  rw [Method.fits_iff, TypeName.same_iff]
  constructor
  · rintro ⟨-, -, hparams, -⟩
    injection hparams with _ hparams
    injection hparams with _ hparams
    injection hparams
  · intro htype
    refine ⟨?_, rfl, ?_, rfl⟩
    · rintro name ⟨⟩
      rfl
    · show [_, _, (Hint.bare a).typeName.aliased []] = [_, _, type.aliased []]
      rw [htype]
      rfl

/-- A hint gives a property and a method the same type exactly if what is left of it without the
markers at its top keeps its unions.  Exactly then an adapter whose methods repeat the hint of a
property is accepted for it. -/
theorem accepts_annotated_iff {a : Hint} (hn : a.Normal) (hname : a.Nameable) :
    ∃ t u, TypeName.ofHint a.split.1 = .ok t ∧ FunctionInfo.typeOf? (some a) = some u ∧
      (t.same u = true ↔ a.split.1.KeepsUnions) ∧
      ∀ owner name markers p, Property.ofDeclaration owner name a markers = .ok p →
        p.type = t ∧ ∀ (table : ClassTable) (settings : Settings) (cls : ClassRef) f,
          (f.ReadsAs settings a →
            ⟨settings.adapter.readMethod, .instance f⟩ ∈ table.visibleAttributes cls →
            ((table.mapping settings).checkAdapter { write := false } p cls = .ok () ↔
              a.split.1.KeepsUnions)) ∧
          (f.WritesAs settings a →
            ⟨settings.adapter.writeMethod, .instance f⟩ ∈ table.visibleAttributes cls →
            ((table.mapping settings).checkAdapter { read := false } p cls = .ok () ↔
              a.split.1.KeepsUnions)) := by
  have hsplit := Hint.ofHint_eq (Hint.nameable_split hname)
  have hsame := Hint.same_declared_iff hn hname
  refine ⟨a.split.1.typeName, (Hint.bare a).typeName, hsplit,
    FunctionInfo.typeOf?_of_nameable hname, hsame, fun owner name markers p hp => ?_⟩
  have htype : p.type = a.split.1.typeName := by
    have hdeclared := type_of_ofDeclaration hp
    rw [hsplit] at hdeclared
    exact (Except.ok.inj hdeclared).symm
  refine ⟨htype, fun table settings cls f => ⟨fun hf hvisible => ?_, fun hf hvisible => ?_⟩⟩
  · rw [Mapping.checkAdapter_eq_ok_iff, htype, hasMethod_readShape_iff hname hf hvisible,
      TypeName.same_comm, hsame]
    simp
  · rw [Mapping.checkAdapter_eq_ok_iff, htype, hasMethod_writeShape_iff hname hf hvisible,
      TypeName.same_comm, hsame]
    simp

/-! ### an optional list and a list of two integers -/

/-- the function of a read method that returns what a hint says -/
def returning (a : Hint) : FunctionInfo :=
  { params := [{ name := "cursor", hint := some (.cls .cursor) },
      { name := "column_name", hint := some Platform.str }]
    returns := some a }

theorem readsAs_returning {a : Hint} (h : a.dangling? = none) : (returning a).ReadsAs {} a := by
  refine ⟨rfl, ?_, rfl, rfl⟩
  show ∀ k ∈ [.cls .cursor, Platform.str, a], k.dangling? = none
  simpa using ⟨rfl, rfl, h⟩

def tagsReturning (a : Hint) : ClassTable :=
  [{ ref := tagsRef, attributes := [⟨"from_cursor", .instance (returning a)⟩] }]

theorem visible_tagsReturning (a : Hint) :
    ⟨"from_cursor", .instance (returning a)⟩ ∈ (tagsReturning a).visibleAttributes tagsRef := by
  have hframework : isFramework tagsRef = false := by decide +kernel
  have hshown : (tagsReturning a).visibleAttributes tagsRef = firstNamed _ :=
    visibleAttributes_singleton rfl hframework
  rw [hshown]
  exact List.mem_cons_self

/-- an optional list of tags, with markers on the list and on the tags -/
def optionalTags : Hint :=
  .union [.annotated (.generic (.builtin "list") [.annotated Platform.str [.other "tag"]])
    [.column "tags"], .none]

theorem normal_optionalTags : optionalTags.Normal := by
  have htag : (Hint.annotated Platform.str [.other "tag"]).Normal := .annotated (.atomic rfl)
  have hlist : (Hint.generic (.builtin "list") [.annotated Platform.str [.other "tag"]]).Normal :=
    .generic (List.forall_mem_singleton.mpr htag)
  refine .union (Nat.le_refl 2) ?_ ?_ ?_
  · simp [Hint.same]
  · simp [Hint.Flat, Hint.members, Hint.named]
  · exact List.forall_mem_cons.mpr ⟨.annotated hlist, List.forall_mem_singleton.mpr (.atomic rfl)⟩

theorem split_optionalTags : optionalTags.split =
    (.union [.generic (.builtin "list") [.annotated Platform.str [.other "tag"]], .none],
      [.column "tags"]) := by
  simp [optionalTags, Hint.split, Hint.splitAll, Hint.unionOf, Hint.members, Hint.named,
    Hint.distinct, Hint.same, Hint.ofMembers]

theorem keepsUnions_optionalTags : optionalTags.split.1.KeepsUnions := by
  rw [split_optionalTags]
  have hlist : (Hint.generic (.builtin "list")
      [.annotated Platform.str [.other "tag"]]).KeepsUnions :=
    .generic (List.forall_mem_singleton.mpr (.annotated (.atomic rfl)))
  refine .union ⟨?_, .inl rfl⟩ ?_
  · simp [Hint.bare]
  · exact List.forall_mem_cons.mpr ⟨hlist, List.forall_mem_singleton.mpr (.atomic rfl)⟩

/-- An adapter that returns the optional list is accepted for a property declared with it. -/
theorem accepts_optionalTags : optionalTags.Normal ∧ optionalTags.Nameable ∧
    ∃ p, Property.ofDeclaration "app.User" "tags" optionalTags [.adapter tagsRef] = .ok p ∧
      ((tagsReturning optionalTags).mapping {}).checkAdapter { write := false } p tagsRef
        = .ok () := by
  have hname : optionalTags.Nameable := ⟨_, rfl⟩
  obtain ⟨t, u, -, -, -, hall⟩ := accepts_annotated_iff normal_optionalTags hname
  have hdeclared : ∃ p,
      Property.ofDeclaration "app.User" "tags" optionalTags [.adapter tagsRef] = .ok p := by
    unfold Property.ofDeclaration
    rw [split_optionalTags]
    exact ⟨_, rfl⟩
  obtain ⟨p, hp⟩ := hdeclared
  obtain ⟨-, haccepts⟩ := hall _ _ _ p hp
  refine ⟨normal_optionalTags, hname, p, hp, ?_⟩
  refine ((haccepts _ {} tagsRef _).1 (readsAs_returning rfl) (visible_tagsReturning _)).mpr ?_
  exact keepsUnions_optionalTags

/-- a list of integers under either of two markers -/
def markedInts : Hint :=
  .generic (.builtin "list") [.union [.annotated Platform.int [.other "a"],
    .annotated Platform.int [.other "b"]]]

theorem normal_markedInts : markedInts.Normal := by
  refine .generic (List.forall_mem_singleton.mpr (.union (Nat.le_refl 2) ?_ ?_ ?_))
  · simp [Hint.same]
  · simp [Hint.Flat, Hint.members, Hint.named]
  · have hint : ∀ ms, (Hint.annotated Platform.int ms).Normal := fun ms => .annotated (.atomic rfl)
    exact List.forall_mem_cons.mpr ⟨hint _, List.forall_mem_singleton.mpr (hint _)⟩

theorem bare_markedInts : markedInts.bare = .generic (.builtin "list") [Platform.int] := by
  simp [markedInts, Hint.bare, Hint.bareAll, Hint.unionOf, Hint.members, Hint.named,
    Hint.distinct, Hint.same, Hint.ofMembers, Platform.int]

/-- the property declared with the marked integers -/
def markedProperty : Property :=
  { name := "tags"
    type := { name := "list"
              args := [{ name := "Union", module := "typing", args := [.int, .int] }] }
    conversion := .adapter tagsRef
    site := some ⟨"app.User", "tags"⟩ }

/-- The property is a list of `int | int` and the method returns a list of `int`, so an adapter
with the hint of the property is refused. -/
theorem not_accepts_markedInts : markedInts.Normal ∧ markedInts.dangling? = none ∧
    Property.ofDeclaration "app.User" "tags" markedInts [.adapter tagsRef] = .ok markedProperty ∧
      FunctionInfo.typeOf? (some markedInts) = some { name := "list", args := [.int] } ∧
      markedProperty.type.same { name := "list", args := [.int] } = false ∧
      ((tagsReturning markedInts).mapping {}).checkAdapter { write := false } markedProperty tagsRef
        ≠ .ok () := by
  have htype : FunctionInfo.typeOf? (some markedInts) =
      some { name := "list", args := [.int] } := by
    rw [FunctionInfo.typeOf?, Option.bind_some, bare_markedInts]
    rfl
  have hsame : markedProperty.type.same { name := "list", args := [.int] } = false := by
    decide +kernel
  have hrefused : ¬(Hint.bare markedInts).typeName.same markedProperty.type = true := by
    rw [bare_markedInts]
    decide +kernel
  refine ⟨normal_markedInts, rfl, rfl, htype, hsame, ?_⟩
  rw [Ne, Mapping.checkAdapter_eq_ok_iff, hasMethod_readShape_iff ⟨_, rfl⟩ (readsAs_returning rfl)
    (visible_tagsReturning _)]
  exact fun haccepted => hrefused (haccepted.1 rfl)

end ClassTable
end RowMapping
