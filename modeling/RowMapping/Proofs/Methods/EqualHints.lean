import RowMapping.Proofs.Hint.Order
import RowMapping.Proofs.Methods.Annotated

/-!
# Methods with equal hints

A method is found for a shape by the names of its hints.  Hints that are equal to the ones that a
shape stands for do as well, if the members of their unions are in the same order, `None` apart.

* `shape?_of_annotatedWith`  the types of a method by its hints;
* `finds_equal_iff`  what equal hints mean for names, and for the methods that a shape asks for.
-/

namespace RowMapping

/-! ### equal hints without markers -/

namespace Hint

/-- Equal hints in normal form of which one has a name, and so has the other. -/
structure Equals (h k : Hint) : Prop where
  normal : h.Normal
  normal' : k.Normal
  nameable : h.Nameable
  same : same h k = true

/-- a hint without annotated layers at any depth -/
inductive Unmarked : Hint → Prop
  | atomic {h : Hint} (ha : h.atomic = true) : Unmarked h
  | union {hs : List Hint} (hall : ∀ h ∈ hs, h.Unmarked) : Unmarked (union hs)
  | generic {c : ClassRef} {hs : List Hint} (hall : ∀ h ∈ hs, h.Unmarked) :
      Unmarked (generic c hs)
  | callable {ps : List Hint} {r : Hint} (hall : ∀ p ∈ ps, p.Unmarked) (hr : r.Unmarked) :
      Unmarked (callable ps r)
  | list {hs : List Hint} (hall : ∀ h ∈ hs, h.Unmarked) : Unmarked (list hs)
  | classVar {h : Hint} (hh : h.Unmarked) : Unmarked (classVar h)

theorem map_eq_self {hs : List Hint} {f : Hint → Hint} (hf : ∀ h ∈ hs, f h = h) :
    hs.map f = hs := by
  conv_rhs => rw [← List.map_id hs]
  exact List.map_congr_left hf

theorem bare_of_unmarked {h : Hint} (hu : h.Unmarked) (hn : h.Normal) : bare h = h := by
  induction hu with
  | atomic ha => exact bare_of_atomic ha
  | @union hs _ ih =>
    obtain ⟨htwo, hsummands⟩ := normal_union_iff.mp hn
    rw [bare_union, map_eq_self fun h hmem => ih h hmem (hsummands.normal h hmem)]
    exact unionOf_of_flat htwo hsummands.different hsummands.flat
  | @generic c hs _ ih =>
    rw [normal_generic_iff] at hn
    rw [bare_generic, map_eq_self fun h hmem => ih h hmem (hn h hmem)]
  | @callable ps r _ _ ihp ihr =>
    obtain ⟨hps, hr⟩ := normal_callable_iff.mp hn
    rw [bare_callable, map_eq_self fun p hmem => ihp p hmem (hps p hmem), ihr hr]
  | list _ _ => exact bare_list _
  | classVar _ ih => rw [bare_classVar, ih (normal_classVar_iff.mp hn)]

end Hint

/-! ### methods by their hints -/

/-- the function whose parameters, as far as they are looked at, and result have these hints -/
structure FunctionInfo.AnnotatedWith (f : FunctionInfo) (params : List Param) (takes : List Hint)
    (returns : Hint) : Prop where
  sound : f.brokenSignature = false
  resolved : ∀ h ∈ f.hints, h.dangling? = none
  takes : List.Forall₂ (fun p h => p.isVariadic = false ∧ p.hint = some h) params takes
  returns : f.returns = some returns

/-- the member that is a method, static or not, with these hints behind its receiver -/
def Member.AnnotatedWith (isStatic : Bool) (takes : List Hint) (returns : Hint) : Member → Prop
  | .instance f => isStatic = false ∧ f.AnnotatedWith f.boundParams takes returns
  | .static f => isStatic = true ∧ f.AnnotatedWith f.params takes returns
  | .ofClass f => isStatic = true ∧ f.AnnotatedWith f.boundParams takes returns
  | .property => False
  | .value => False

variable {takes : List Hint} {returns : Hint}

theorem FunctionInfo.shape?_of_annotatedWith {f : FunctionInfo} {params : List Param}
    (h : f.AnnotatedWith params takes returns) (htakes : ∀ h ∈ takes, h.Nameable)
    (hreturns : returns.Nameable) : f.shape? params =
      some (takes.map fun h => (Hint.bare h).typeName, (Hint.bare returns).typeName) := by
  have hparams : paramTypes? params = some (takes.map fun h => (Hint.bare h).typeName) := by
    have hall := h.takes
    clear h
    induction hall with
    | nil => rfl
    | cons hp _ ih =>
      obtain ⟨hfirst, hrest⟩ := List.forall_mem_cons.mp htakes
      rw [paramTypes?, hp.1, hp.2, typeOf?_of_nameable hfirst, ih hrest]
      rfl
  rw [shape?_eq h.sound h.resolved, hparams, h.returns, typeOf?_of_nameable hreturns]
  rfl

theorem Member.shape?_of_annotatedWith {member : Member} {isStatic : Bool}
    (h : member.AnnotatedWith isStatic takes returns) (htakes : ∀ h ∈ takes, h.Nameable)
    (hreturns : returns.Nameable) : member.shape? =
      some (isStatic, takes.map fun h => (Hint.bare h).typeName,
        (Hint.bare returns).typeName) := by
  cases member with
  | «instance» f =>
    obtain ⟨rfl, hf⟩ := h
    rw [shape?, FunctionInfo.shape?_of_annotatedWith hf htakes hreturns]
    rfl
  | static f =>
    obtain ⟨rfl, hf⟩ := h
    rw [shape?, FunctionInfo.shape?_of_annotatedWith hf htakes hreturns]
    rfl
  | ofClass f =>
    obtain ⟨rfl, hf⟩ := h
    rw [shape?, FunctionInfo.shape?_of_annotatedWith hf htakes hreturns]
    rfl
  | property => cases h
  | value => cases h

/-- a shape that asks for the types that hints name -/
structure Shape.Names (s : Shape) (takes : List Hint) (returns : Hint) : Prop where
  takes : s.takes = takes.map Hint.typeName
  returns : s.returns = returns.typeName

/-! ### equal hints and their names -/

namespace Hint

variable {h k : Hint} {hs ks : List Hint}

theorem nameable_of_equals (e : h.Equals k) : k.Nameable := nameable_of_same e.nameable e.same

theorem typeName_of_equals (e : h.Equals k) (hlast : noneLast h = noneLast k) :
    h.typeName = k.typeName :=
  typeName_eq_of_noneLast e.nameable (nameable_of_equals e) hlast

theorem typeName_iff_of_equals (e : h.Equals k) (hapart : h.TellsApart) :
    h.typeName = k.typeName ↔ noneLast h = noneLast k :=
  typeName_eq_iff hapart e.normal e.normal' e.nameable e.same

theorem map_typeName_of_equals (e : List.Forall₂ Equals hs ks)
    (hlast : hs.map noneLast = ks.map noneLast) : hs.map typeName = ks.map typeName :=
  map_eq_map_of_forall₂ (e.imp fun _ _ e => typeName_of_equals e) hlast

theorem map_typeName_iff_of_equals (e : List.Forall₂ Equals hs ks)
    (hapart : ∀ h ∈ hs, h.TellsApart) :
    hs.map typeName = ks.map typeName ↔ hs.map noneLast = ks.map noneLast := by
  refine ⟨map_eq_map_of_forall₂ ?_, map_typeName_of_equals e⟩
  exact forall₂_imp_of_mem e fun h hmem k _ e => (typeName_iff_of_equals e (hapart h hmem)).mp

theorem map_aliased_typeName (hname : ∀ h ∈ hs, h.Nameable) :
    (hs.map typeName).map (TypeName.aliased []) = hs.map typeName := by
  rw [List.map_map]
  exact List.map_congr_left fun h hmem => aliased_typeName (hname h hmem)

end Hint

variable {others : List Hint} {other : Hint}

/-- A method fits a shape that its hints are equal to exactly if these have the same names. -/
theorem Method.fits_iff_of_equals (method : Method) {s : Shape} (hs : s.Names takes returns)
    (htakes : List.Forall₂ Hint.Equals takes others) (hreturns : returns.Equals other)
    (hparams : method.params = others.map Hint.typeName)
    (hresult : method.returns = other.typeName) (hstatic : method.isStatic = s.isStatic)
    (hname : ∀ name ∈ s.name, name = method.name) : method.fits s = true ↔
      takes.map Hint.typeName = others.map Hint.typeName ∧
        returns.typeName = other.typeName := by
  have hnames : ∀ h ∈ takes, h.Nameable := fun h hmem => by
    obtain ⟨k, -, e⟩ := exists_right_of_forall₂ htakes hmem
    exact e.nameable
  have knames : ∀ k ∈ others, k.Nameable := fun k hk => by
    obtain ⟨h, -, e⟩ := exists_left_of_forall₂ htakes hk
    exact Hint.nameable_of_equals e
  rw [Method.fits_iff, hparams, hresult, hs.takes, hs.returns, Hint.map_aliased_typeName hnames,
    Hint.map_aliased_typeName knames, Hint.aliased_typeName hreturns.nameable,
    Hint.aliased_typeName (Hint.nameable_of_equals hreturns), eq_comm (a := others.map _),
    eq_comm (a := other.typeName)]
  exact ⟨fun h => h.2.2, fun h => ⟨hname, hstatic, h⟩⟩

namespace ClassTable

/-- The method of a visible attribute with hints equal to those of a shape is found for it if the
names of the hints are the same, and where the shape asks for it by name, only then. -/
theorem hasMethod_of_equals {table : ClassTable} {cls : ClassRef} {a : Attribute} {s : Shape}
    (hvisible : a ∈ table.visibleAttributes cls) (hname : ∀ name ∈ s.name, name = a.name)
    (hs : s.Names takes returns) (ha : a.member.AnnotatedWith s.isStatic others other)
    (htakes : List.Forall₂ Hint.Equals takes others) (hreturns : returns.Equals other)
    (hunmarked : ∀ k ∈ other :: others, k.Unmarked) :
    (takes.map Hint.typeName = others.map Hint.typeName → returns.typeName = other.typeName →
      table.directory.hasMethod cls s = true) ∧
    (s.name = some a.name → (table.directory.hasMethod cls s = true ↔
      takes.map Hint.typeName = others.map Hint.typeName ∧
        returns.typeName = other.typeName)) := by
  have hequals : ∀ k ∈ others, ∃ h : Hint, h.Equals k := fun k hk => by
    obtain ⟨h, -, e⟩ := exists_left_of_forall₂ htakes hk
    exact ⟨h, e⟩
  obtain ⟨hother, hothers⟩ := List.forall_mem_cons.mp hunmarked
  have hbare : others.map (fun k => k.bare.typeName) = others.map Hint.typeName := by
    refine List.map_congr_left fun k hk => ?_
    obtain ⟨h, e⟩ := hequals k hk
    rw [Hint.bare_of_unmarked (hothers k hk) e.normal']
  have hshape := Member.shape?_of_annotatedWith ha
    (fun k hk => (hequals k hk).elim fun _ e => Hint.nameable_of_equals e)
    (Hint.nameable_of_equals hreturns)
  rw [hbare, Hint.bare_of_unmarked hother hreturns.normal'] at hshape
  have hmethod : a.method? (.ofClass cls) = some
      { owner := .ofClass cls, name := a.name, params := others.map Hint.typeName
        returns := other.typeName, isStatic := s.isStatic } := by
    rw [Attribute.method?, hshape]
    rfl
  have hfits := Method.fits_iff_of_equals
    { owner := .ofClass cls, name := a.name, params := others.map Hint.typeName
      returns := other.typeName, isStatic := s.isStatic } hs htakes hreturns rfl rfl rfl hname
  refine ⟨fun hparams hresult => ?_, fun hasked => ?_⟩
  · exact Directory.hasMethod_iff.mpr
      ⟨_, List.mem_filterMap.mpr ⟨a, hvisible, hmethod⟩, hfits.mpr ⟨hparams, hresult⟩⟩
  · rw [hasMethod_iff_of_visible hvisible hmethod hasked, hfits]

/-- Hints that are equal have names that are alike, and one name if their members are in the same
order, `None` apart; only then, as long as the members of unions are told apart by their names.
The name of a union does not depend on how it is put together.  So a method whose hints are equal
to those that a shape stands for is found if all of them are in the same order, and where the
shape asks for the method by its name, only then. -/
theorem finds_equal_iff {returns other : Hint} (e : returns.Equals other) :
    (∃ t u, TypeName.ofHint returns = .ok t ∧ TypeName.ofHint other = .ok u ∧
      t.alike u = true ∧ (returns.noneLast = other.noneLast → t.same u = true) ∧
      (returns.TellsApart → (t.same u = true ↔ returns.noneLast = other.noneLast))) ∧
    (∀ hs ks : List Hint, (∀ h ∈ hs, h.Nameable) → (∀ k ∈ ks, k.Nameable) →
      Hint.nonNone (hs.flatMap Hint.members) = Hint.nonNone (ks.flatMap Hint.members) →
      (.none ∈ hs.flatMap Hint.members ↔ .none ∈ ks.flatMap Hint.members) →
      ∃ t, TypeName.ofHint (.unionOf hs) = .ok t ∧ TypeName.ofHint (.unionOf ks) = .ok t) ∧
    ∀ (table : ClassTable) (cls : ClassRef) (a : Attribute) (s : Shape) takes others,
      a ∈ table.visibleAttributes cls → (∀ name ∈ s.name, name = a.name) →
      s.Names takes returns → a.member.AnnotatedWith s.isStatic others other →
      List.Forall₂ Hint.Equals takes others → (∀ k ∈ other :: others, k.Unmarked) →
      (takes.map Hint.noneLast = others.map Hint.noneLast → returns.noneLast = other.noneLast →
        table.directory.hasMethod cls s = true) ∧
      (s.name = some a.name → (∀ h ∈ returns :: takes, h.TellsApart) →
        (table.directory.hasMethod cls s = true ↔
          takes.map Hint.noneLast = others.map Hint.noneLast ∧
            returns.noneLast = other.noneLast)) := by
  refine ⟨?_, fun hs ks hname kname enames hnone => ?_, ?_⟩
  · have hother := Hint.nameable_of_equals e
    refine ⟨returns.typeName, other.typeName, Hint.ofHint_eq e.nameable, Hint.ofHint_eq hother,
      Hint.alike_typeName e.normal e.normal' e.nameable e.same, ?_⟩
    rw [Hint.same_typeName_iff e.nameable hother]
    exact ⟨Hint.typeName_of_equals e, Hint.typeName_iff_of_equals e⟩
  · refine ⟨_, Hint.ofHint_eq (Hint.nameable_unionOf hname), ?_⟩
    rw [Hint.typeName_unionOf_congr hname kname enames hnone]
    exact Hint.ofHint_eq (Hint.nameable_unionOf kname)
  · intro table cls a s takes others hvisible hname hs ha htakes hunmarked
    obtain ⟨hfound, hasked⟩ := hasMethod_of_equals hvisible hname hs ha htakes e hunmarked
    refine ⟨fun elast rlast => ?_, fun hself hapart => ?_⟩
    · exact hfound (Hint.map_typeName_of_equals htakes elast) (Hint.typeName_of_equals e rlast)
    · obtain ⟨hreturnsApart, htakesApart⟩ := List.forall_mem_cons.mp hapart
      rw [hasked hself, Hint.map_typeName_iff_of_equals htakes htakesApart,
        Hint.typeName_iff_of_equals e hreturnsApart]

/-! ### unions of integers and strings -/

/-- `int | str` -/
def intOrStr : Hint := .union [Platform.int, Platform.str]

/-- `str | int` -/
def strOrInt : Hint := .union [Platform.str, Platform.int]

/-- `int | str | None` -/
def intOrStrOrNone : Hint := .union [Platform.int, Platform.str, .none]

/-- `None | int | str` -/
def noneOrIntOrStr : Hint := .union [.none, Platform.int, Platform.str]

/-- a union of two or more different classes, or of classes and `None` -/
theorem union_of_classes {hs : List Hint} (htwo : 2 ≤ hs.length) (hp : Hint.Different hs)
    (hall : ∀ h ∈ hs, h = .none ∨ ∃ c, h = .cls c) :
    (Hint.union hs).Normal ∧ (Hint.union hs).Unmarked := by
  have hatomic : ∀ h ∈ hs, h.atomic = true ∧ h.Flat := fun h hmem => by
    rcases hall h hmem with rfl | ⟨c, rfl⟩
    · exact ⟨rfl, rfl⟩
    · exact ⟨rfl, rfl⟩
  exact ⟨.union htwo hp (fun h hmem => (hatomic h hmem).2) fun h hmem =>
    .atomic (hatomic h hmem).1, .union fun h hmem => .atomic (hatomic h hmem).1⟩

theorem equals_cls (c : ClassRef) : (Hint.cls c).Equals (.cls c) :=
  ⟨.atomic rfl, .atomic rfl, ⟨_, rfl⟩, Hint.same_refl ⟨_, rfl⟩⟩

theorem annotatedWith_returning {a : Hint} (h : a.dangling? = none) :
    (Member.instance (returning a)).AnnotatedWith false [.cls .cursor, Platform.str] a := by
  obtain ⟨hsound, hresolved, -, hreturns⟩ := readsAs_returning h
  exact ⟨rfl, hsound, hresolved, .cons ⟨rfl, rfl⟩ (.cons ⟨rfl, rfl⟩ .nil), hreturns⟩

/-- `None` may stand anywhere: an adapter that returns `None | int | str` is found for a property
of the type `int | str | None`. -/
theorem finds_equal_noneOrIntOrStr : intOrStrOrNone.Equals noneOrIntOrStr ∧
    intOrStrOrNone.TellsApart ∧
    (∃ t u, TypeName.ofHint intOrStrOrNone = .ok t ∧ TypeName.ofHint noneOrIntOrStr = .ok u ∧
      t.same u = true) ∧
    (∃ t, TypeName.ofHint (.unionOf [intOrStr, .none]) = .ok t ∧
      TypeName.ofHint (.unionOf [.none, intOrStr]) = .ok t) ∧
    (tagsReturning noneOrIntOrStr).directory.hasMethod tagsRef
      (((tagsReturning noneOrIntOrStr).mapping {}).readShape intOrStrOrNone.typeName) = true := by
  obtain ⟨hnormal, -⟩ : intOrStrOrNone.Normal ∧ intOrStrOrNone.Unmarked :=
    union_of_classes (by decide) (by decide +kernel) (by simp [Platform.int, Platform.str])
  obtain ⟨hnormal', hunmarked⟩ : noneOrIntOrStr.Normal ∧ noneOrIntOrStr.Unmarked :=
    union_of_classes (by decide) (by decide +kernel) (by simp [Platform.int, Platform.str])
  have hequals : intOrStrOrNone.Equals noneOrIntOrStr :=
    ⟨hnormal, hnormal', ⟨_, rfl⟩, by decide +kernel⟩
  have hlast : intOrStrOrNone.noneLast = noneOrIntOrStr.noneLast := by
    rw [intOrStrOrNone, noneOrIntOrStr, Hint.noneLast_union, Hint.noneLast_union]
    rfl
  have hapart : intOrStrOrNone.TellsApart := by
    refine Hint.tellsApart_of_nodup (by decide +kernel) fun h hmem => .atomic ?_
    revert h
    simp [Hint.atomic, Platform.int, Platform.str]
  have hclasses : ∀ k ∈ [noneOrIntOrStr, .cls .cursor, Platform.str], k.Unmarked :=
    List.forall_mem_cons.mpr ⟨hunmarked, List.forall_mem_cons.mpr
      ⟨.atomic rfl, List.forall_mem_singleton.mpr (.atomic rfl)⟩⟩
  obtain ⟨⟨t, u, ht, hu, -, hsame, -⟩, hunions, hmethods⟩ := finds_equal_iff hequals
  refine ⟨hequals, hapart, ⟨t, u, ht, hu, hsame hlast⟩, ?_, ?_⟩
  · have hboth : ∀ h ∈ [intOrStr, .none], h.Nameable :=
      List.forall_mem_cons.mpr ⟨⟨_, rfl⟩, List.forall_mem_singleton.mpr Hint.nameable_none⟩
    refine hunions [intOrStr, .none] [.none, intOrStr] hboth
      (fun h hmem => hboth h (List.mem_reverse.mp hmem)) rfl ?_
    simp [intOrStr, Hint.members, Hint.named, Platform.int, Platform.str]
  · refine (hmethods _ tagsRef ⟨"from_cursor", .instance (returning noneOrIntOrStr)⟩ _
      [.cls .cursor, Platform.str] [.cls .cursor, Platform.str]
      (visible_tagsReturning _) ?_ ⟨rfl, rfl⟩ (annotatedWith_returning rfl)
      (.cons (equals_cls _) (.cons (equals_cls _) .nil)) hclasses).1 rfl hlast
    rintro name ⟨⟩
    rfl

/-- An adapter that returns `str | int` is refused for a property of the type `int | str`, which
is equal to it. -/
theorem not_finds_equal_strOrInt : intOrStr.Equals strOrInt ∧ intOrStr.Unmarked ∧
    strOrInt.Unmarked ∧
    (∃ t u, TypeName.ofHint intOrStr = .ok t ∧ TypeName.ofHint strOrInt = .ok u ∧
      t.same u = false) ∧
    ∃ p, Property.ofDeclaration "app.User" "tags" intOrStr [.adapter tagsRef] = .ok p ∧
      ((tagsReturning strOrInt).mapping {}).checkAdapter { write := false } p tagsRef
        ≠ .ok () := by
  obtain ⟨hnormal, hunmarked⟩ : intOrStr.Normal ∧ intOrStr.Unmarked :=
    union_of_classes (by decide) (by decide +kernel) (by simp [Platform.int, Platform.str])
  obtain ⟨hnormal', hunmarked'⟩ : strOrInt.Normal ∧ strOrInt.Unmarked :=
    union_of_classes (by decide) (by decide +kernel) (by simp [Platform.int, Platform.str])
  refine ⟨⟨hnormal, hnormal', ⟨_, rfl⟩, by decide +kernel⟩, hunmarked, hunmarked',
    ⟨_, _, rfl, rfl, by decide +kernel⟩, _, rfl, ?_⟩
  rw [Ne, Mapping.checkAdapter_eq_ok_iff, hasMethod_readShape_iff ⟨_, rfl⟩ (readsAs_returning rfl)
    (visible_tagsReturning _), Hint.bare_of_unmarked hunmarked' hnormal']
  intro haccepted
  exact absurd (haccepted.1 rfl) (by decide +kernel)

end ClassTable
end RowMapping
