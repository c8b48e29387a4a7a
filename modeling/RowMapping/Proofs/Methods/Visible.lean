import Mathlib.Data.List.Forall2
import RowMapping.Proofs.Correspondence
import RowMapping.Proofs.Methods.Calls

/-!
# Methods that a class shows

A class is searched through the classes of its resolution order that are no frameworks, each body
from front to back.  Of every name the declaration that the search meets first decides: it is a
method of the class if its function can be read and all types are known, and otherwise the class
has no method of that name, whatever stands behind it.

A declaration with a hint that is quoted and no expression is no such function: whoever reads it is
refused, and so is whoever asks the class for its methods.

* `Member.IsMethod`  what can be read as a method, and its types;
* `Member.Refuses`  what refuses to be read, and with which failure;
* `Place`, `DeclaredAt`, `FirstAt`  where a name is declared, and where it is declared first;
* `lists_first_declared`  a class refuses to list its methods if one of its first declarations
  does, and otherwise lists those that can be read, in their order; a shape is looked up from the
  front;
* `checkAdapter_guarded_iff`  what an adapter is accepted for that may refuse.
-/

namespace RowMapping

/-! ### functions that can be read -/

/-- a hint that is there and, its markers dropped, has a name -/
def FunctionInfo.NamedBy (hint : Option Hint) (type : TypeName) : Prop :=
  ∃ h, hint = some h ∧ TypeName.ofHint h.bare = .ok type

/-- A function that can be read: it has a signature, all its hints are found, and of some of its
parameters none is variadic and all have types, as has its result. -/
structure FunctionInfo.HasShape (f : FunctionInfo) (params : List Param) (types : List TypeName)
    (returns : TypeName) : Prop where
  sound : f.brokenSignature = false
  resolved : ∀ h ∈ f.hints, h.dangling? = none
  params : List.Forall₂ (fun p type => p.isVariadic = false ∧ NamedBy p.hint type) params types
  returns : NamedBy f.returns returns

/-- a function in a class body that can be read, and whether it counts as static -/
inductive Member.IsMethod : Member → Bool → List TypeName → TypeName → Prop
  | «instance» {f : FunctionInfo} {types : List TypeName} {returns : TypeName}
      (h : f.HasShape f.boundParams types returns) : IsMethod (.instance f) false types returns
  | static {f : FunctionInfo} {types : List TypeName} {returns : TypeName}
      (h : f.HasShape f.params types returns) : IsMethod (.static f) true types returns
  | ofClass {f : FunctionInfo} {types : List TypeName} {returns : TypeName}
      (h : f.HasShape f.boundParams types returns) : IsMethod (.ofClass f) true types returns

namespace FunctionInfo
variable {f : FunctionInfo} {params : List Param} {types : List TypeName} {returns : TypeName}

theorem typeOf?_eq_some_iff {hint : Option Hint} {type : TypeName} :
    typeOf? hint = some type ↔ NamedBy hint type := by
  unfold typeOf? NamedBy
  rw [Option.bind_eq_some_iff]
  refine exists_congr fun h => and_congr_right fun _ => ?_
  cases TypeName.ofHint h.bare with
  | error e => simp [Except.toOption]
  | ok t => simp [Except.toOption]

theorem paramTypes?_eq_some_iff : paramTypes? params = some types ↔
    List.Forall₂ (fun p type => p.isVariadic = false ∧ NamedBy p.hint type) params types := by
  constructor
  · intro h
    obtain ⟨hplain, htypes⟩ := paramTypes?_eq_some h
    refine forall₂_imp_of_mem htypes fun p hp type _ htype => ?_
    exact ⟨hplain p hp, typeOf?_eq_some_iff.mp htype⟩
  · intro h
    induction h with
    | nil => rfl
    | cons hp _ ih =>
      rw [paramTypes?, hp.1, typeOf?_eq_some_iff.mpr hp.2, ih]
      rfl

theorem shape?_eq_some_iff :
    f.shape? params = some (types, returns) ↔ f.HasShape params types returns := by
  have hguard : (f.brokenSignature || f.hints.any (·.dangling?.isSome)) = true ↔
      ¬ (f.brokenSignature = false ∧ ∀ h ∈ f.hints, h.dangling? = none) := by
    cases f.brokenSignature <;> simp [Option.ne_none_iff_isSome]
  have hresult : ((paramTypes? params).bind fun ts => (typeOf? f.returns).map fun r => (ts, r))
      = some (types, returns) ↔
        paramTypes? params = some types ∧ typeOf? f.returns = some returns := by
    simp [Option.bind_eq_some_iff]
  unfold shape?
  rw [ite_eq_iff, hguard, Classical.not_not, hresult, paramTypes?_eq_some_iff, typeOf?_eq_some_iff]
  constructor
  · rintro (⟨-, ⟨⟩⟩ | ⟨⟨hsound, hresolved⟩, hparams, hreturns⟩)
    exact ⟨hsound, hresolved, hparams, hreturns⟩
  · rintro ⟨hsound, hresolved, hparams, hreturns⟩
    exact .inr ⟨⟨hsound, hresolved⟩, hparams, hreturns⟩

end FunctionInfo

theorem Member.shape?_eq_some_iff {member : Member} {isStatic : Bool} {types : List TypeName}
    {returns : TypeName} : member.shape? = some (isStatic, types, returns) ↔
      member.IsMethod isStatic types returns := by
  have hmap : ∀ (b : Bool) (shape : Option (List TypeName × TypeName)),
      shape.map (b, ·) = some (isStatic, types, returns) ↔
        b = isStatic ∧ shape = some (types, returns) := by
    intro b shape
    cases shape <;> simp
  cases member with
  | «instance» f =>
    rw [shape?, hmap, FunctionInfo.shape?_eq_some_iff]
    exact ⟨fun ⟨hstatic, h⟩ => hstatic ▸ .instance h, fun | .instance h => ⟨rfl, h⟩⟩
  | static f =>
    rw [shape?, hmap, FunctionInfo.shape?_eq_some_iff]
    exact ⟨fun ⟨hstatic, h⟩ => hstatic ▸ .static h, fun | .static h => ⟨rfl, h⟩⟩
  | ofClass f =>
    rw [shape?, hmap, FunctionInfo.shape?_eq_some_iff]
    exact ⟨fun ⟨hstatic, h⟩ => hstatic ▸ .ofClass h, fun | .ofClass h => ⟨rfl, h⟩⟩
  | property => exact ⟨nofun, nofun⟩
  | value => exact ⟨nofun, nofun⟩

theorem Attribute.method?_eq_some_iff {owner : TypeName} {a : Attribute} {method : Method} :
    a.method? owner = some method ↔ method.owner = owner ∧ method.name = a.name ∧
      a.member.IsMethod method.isStatic method.params method.returns := by
  unfold method?
  rw [Option.map_eq_some_iff]
  constructor
  · rintro ⟨⟨isStatic, params, returns⟩, hshape, rfl⟩
    exact ⟨rfl, rfl, Member.shape?_eq_some_iff.mp hshape⟩
  · rintro ⟨rfl, hname, h⟩
    exact ⟨_, Member.shape?_eq_some_iff.mpr h, by rw [← hname]⟩

/-! ### functions that refuse to be read -/

/-- Of the hints of a function, the first that names nothing is no expression, or ends in an error
that has nothing to do with names and types. -/
def FunctionInfo.Refuses (f : FunctionInfo) (failure : Failure) : Prop :=
  ∃ before h behind d, f.hints = before ++ h :: behind ∧ (∀ g ∈ before, g.dangling? = none) ∧
    h.dangling? = some d ∧ failure = .dangling d ∧
      (d.fault = .malformed ∨ ∃ error detail, d.fault = .raised error detail)

inductive Member.Refuses : Member → Failure → Prop
  | «instance» {f : FunctionInfo} {failure : Failure} (h : f.Refuses failure) :
      Refuses (.instance f) failure
  | static {f : FunctionInfo} {failure : Failure} (h : f.Refuses failure) :
      Refuses (.static f) failure
  | ofClass {f : FunctionInfo} {failure : Failure} (h : f.Refuses failure) :
      Refuses (.ofClass f) failure

theorem danglingAll?_eq_some_iff {hs : List Hint} {d : Dangling} :
    Hint.danglingAll? hs = some d ↔ ∃ before h behind, hs = before ++ h :: behind ∧
      (∀ g ∈ before, g.dangling? = none) ∧ h.dangling? = some d := by
  have hfind : Hint.danglingAll? hs = hs.findSome? (·.dangling?) := by
    induction hs with
    | nil => rfl
    | cons h hs ih =>
      rw [Hint.danglingAll?, ih, List.findSome?_cons]
      cases h.dangling? <;> rfl
  rw [hfind, List.findSome?_eq_some_iff]
  constructor
  · rintro ⟨before, h, behind, hsplit, hd, hbefore⟩
    exact ⟨before, h, behind, hsplit, hbefore, hd⟩
  · rintro ⟨before, h, behind, hsplit, hbefore, hd⟩
    exact ⟨before, h, behind, hsplit, hd, hbefore⟩

theorem QuoteFault.isPassedOver_eq_false_iff {fault : QuoteFault} :
    fault.isPassedOver = false ↔
      fault = .malformed ∨ ∃ error detail, fault = .raised error detail := by
  cases fault <;> simp [isPassedOver]

theorem FunctionInfo.refusal?_eq_some_iff {f : FunctionInfo} {failure : Failure} :
    f.refusal? = some failure ↔ f.Refuses failure := by
  unfold refusal? Refuses
  constructor
  · intro h
    split at h
    next d hd =>
      obtain ⟨before, g, behind, hsplit, hbefore, hg⟩ := danglingAll?_eq_some_iff.mp hd
      split at h
      next => cases h
      next hfault =>
        exact ⟨before, g, behind, d, hsplit, hbefore, hg, (Option.some.inj h).symm,
          QuoteFault.isPassedOver_eq_false_iff.mp (Bool.eq_false_iff.mpr hfault)⟩
    next => cases h
  · rintro ⟨before, g, behind, d, hsplit, hbefore, hg, rfl, hfault⟩
    rw [danglingAll?_eq_some_iff.mpr ⟨before, g, behind, hsplit, hbefore, hg⟩]
    simp only [QuoteFault.isPassedOver_eq_false_iff.mpr hfault, Bool.false_eq_true, if_false]

theorem Member.refusal?_eq_some_iff {member : Member} {failure : Failure} :
    member.refusal? = some failure ↔ member.Refuses failure := by
  cases member with
  | «instance» f =>
    rw [refusal?, FunctionInfo.refusal?_eq_some_iff]
    exact ⟨.instance, fun | .instance h => h⟩
  | static f =>
    rw [refusal?, FunctionInfo.refusal?_eq_some_iff]
    exact ⟨.static, fun | .static h => h⟩
  | ofClass f =>
    rw [refusal?, FunctionInfo.refusal?_eq_some_iff]
    exact ⟨.ofClass, fun | .ofClass h => h⟩
  | property => exact ⟨nofun, nofun⟩
  | value => exact ⟨nofun, nofun⟩

/-! ### places -/

/-- an entry of one of several bodies that stand behind each other -/
structure Place where
  body : Nat
  entry : Nat

/-- Bodies are searched in their order, and each from front to back. -/
def Place.Before (p q : Place) : Prop := p.body < q.body ∨ p.body = q.body ∧ p.entry < q.entry

theorem Place.Before.asymm {p q : Place} (h : p.Before q) : ¬ q.Before p := by
  unfold Before at *
  omega

theorem Place.eq_or_before (p q : Place) : p = q ∨ p.Before q ∨ q.Before p := by
  cases p
  cases q
  simp only [Place.mk.injEq, Before]
  omega

/-- the entries of bodies, each with its place -/
def placed (bodies : List (List Attribute)) : List (Place × Attribute) :=
  bodies.zipIdx.flatMap fun body => body.1.zipIdx.map fun entry =>
    ({ body := body.2, entry := entry.2 }, entry.1)

theorem mem_placed {bodies : List (List Attribute)} {p : Place} {a : Attribute} :
    (p, a) ∈ placed bodies ↔
      ∃ body, bodies[p.body]? = some body ∧ body[p.entry]? = some a := by
  unfold placed
  constructor
  · intro h
    obtain ⟨⟨body, k⟩, hbody, h⟩ := List.mem_flatMap.mp h
    obtain ⟨⟨b, l⟩, hentry, heq⟩ := List.mem_map.mp h
    obtain ⟨rfl, rfl⟩ := Prod.mk.inj heq
    exact ⟨body, List.mk_mem_zipIdx_iff_getElem?.mp hbody,
      List.mk_mem_zipIdx_iff_getElem?.mp hentry⟩
  · rintro ⟨body, hbody, hentry⟩
    refine List.mem_flatMap.mpr ⟨_, List.mk_mem_zipIdx_iff_getElem?.mpr hbody, ?_⟩
    exact List.mem_map.mpr ⟨_, List.mk_mem_zipIdx_iff_getElem?.mpr hentry, rfl⟩

theorem map_snd_placed (bodies : List (List Attribute)) :
    (placed bodies).map (·.2) = bodies.flatten := by
  unfold placed
  rw [List.map_flatMap, List.flatten_eq_flatMap]
  conv_rhs => rw [← List.zipIdx_map_fst 0 bodies, List.flatMap_map]
  congr 1
  funext body
  rw [List.map_map]
  exact List.zipIdx_map_fst 0 body.1

theorem pairwise_placed (bodies : List (List Attribute)) :
    (placed bodies).Pairwise (·.1.Before ·.1) := by
  unfold placed
  rw [List.pairwise_flatMap]
  constructor
  · rintro ⟨body, k⟩ -
    rw [List.pairwise_map]
    exact (pairwise_zipIdx body).imp fun h => .inr ⟨rfl, h⟩
  · refine (pairwise_zipIdx bodies).imp fun {b c} hlt x hx y hy => ?_
    obtain ⟨_, -, rfl⟩ := List.mem_map.mp hx
    obtain ⟨_, -, rfl⟩ := List.mem_map.mp hy
    exact .inl hlt

/-- what stands at a place and bears another name than all that stands before it -/
def IsFirst (entries : List (Place × Attribute)) (x : Place × Attribute) : Prop :=
  x ∈ entries ∧ ∀ y ∈ entries, y.1.Before x.1 → y.2.name ≠ x.2.name

theorem isFirst_cons_iff {first x : Place × Attribute} {entries : List (Place × Attribute)}
    (hfirst : ∀ y ∈ entries, first.1.Before y.1) :
    IsFirst (first :: entries) x ↔ x = first ∨ IsFirst entries x ∧ x.2.name ≠ first.2.name := by
  constructor
  · rintro ⟨hmem, hnames⟩
    obtain ⟨hname, hnames⟩ := List.forall_mem_cons.mp hnames
    refine (List.mem_cons.mp hmem).imp_right fun hmem => ?_
    exact ⟨⟨hmem, hnames⟩, (hname (hfirst x hmem)).symm⟩
  · rintro (rfl | ⟨⟨hmem, hnames⟩, hname⟩)
    · refine ⟨List.mem_cons_self, List.forall_mem_cons.mpr ⟨fun h => absurd h h.asymm, ?_⟩⟩
      exact fun y hy h => absurd h (hfirst y hy).asymm
    · exact ⟨List.mem_cons_of_mem _ hmem, List.forall_mem_cons.mpr ⟨fun _ => hname.symm, hnames⟩⟩

/-- a search sees those that are first of their names, in their order -/
theorem exists_firstNamed {entries : List (Place × Attribute)}
    (hsorted : entries.Pairwise (·.1.Before ·.1)) :
    ∃ firsts : List (Place × Attribute), firsts.Sublist entries ∧
      firsts.map (·.2) = firstNamed (entries.map (·.2)) ∧
      ∀ x, x ∈ firsts ↔ IsFirst entries x := by
  induction entries with
  | nil => exact ⟨[], .slnil, rfl, fun x => ⟨nofun, fun h => absurd h.1 (List.not_mem_nil)⟩⟩
  | cons first entries ih =>
    obtain ⟨hfirst, hsorted⟩ := List.pairwise_cons.mp hsorted
    obtain ⟨firsts, hsub, hmap, hiff⟩ := ih hsorted
    refine ⟨first :: firsts.filter (·.2.name ≠ first.2.name),
      (List.filter_sublist.trans hsub).cons_cons _, ?_, fun x => ?_⟩
    · rw [List.map_cons, List.map_cons, firstNamed_cons, ← hmap, List.filter_map]
      rfl
    · rw [List.mem_cons, List.mem_filter, hiff, decide_eq_true_iff, isFirst_cons_iff hfirst]

/-- in the order of places, what is found first is found nowhere before -/
theorem findSome?_placed {β : Type} {entries : List (Place × Attribute)} {f : Attribute → Option β}
    {b : β} (hsorted : entries.Pairwise (·.1.Before ·.1)) :
    (entries.map (·.2)).findSome? f = some b ↔ ∃ x ∈ entries, f x.2 = some b ∧
      ∀ y ∈ entries, y.1.Before x.1 → f y.2 = none := by
  rw [List.findSome?_map, List.findSome?_eq_some_iff]
  constructor
  · rintro ⟨before, x, behind, rfl, hx, hnone⟩
    refine ⟨x, List.mem_append_right _ List.mem_cons_self, hx, fun y hy hbefore => ?_⟩
    obtain ⟨-, hbehind, -⟩ := List.pairwise_append.mp hsorted
    rcases List.mem_append.mp hy with hy | hy
    · exact hnone y hy
    rcases List.mem_cons.mp hy with rfl | hy
    · exact absurd hbefore hbefore.asymm
    · exact absurd hbefore ((List.pairwise_cons.mp hbehind).1 y hy).asymm
  · rintro ⟨x, hx, hfound, hnone⟩
    obtain ⟨before, behind, rfl⟩ := List.append_of_mem hx
    refine ⟨before, x, behind, rfl, hfound, fun y hy => ?_⟩
    have hbefore := (List.pairwise_append.mp hsorted).2.2 y hy x List.mem_cons_self
    exact hnone y (List.mem_append_left _ hy) hbefore

/-! ### the methods of a class -/

namespace ClassTable
variable {t : ClassTable} {cls : ClassRef} {p q : Place} {a b : Attribute}

/-- the classes that are searched for methods, in their order -/
def searched (t : ClassTable) (cls : ClassRef) : List ClassInfo :=
  (t.ancestry cls).filter (!isFramework ·.ref)

/-- a class that is searched declares an attribute at this place of its body -/
def DeclaredAt (t : ClassTable) (cls : ClassRef) (p : Place) (a : Attribute) : Prop :=
  ∃ i, (t.searched cls)[p.body]? = some i ∧ (t.attributes i)[p.entry]? = some a

/-- a declaration that the search meets before all others of its name -/
def FirstAt (t : ClassTable) (cls : ClassRef) (p : Place) (a : Attribute) : Prop :=
  t.DeclaredAt cls p a ∧ ∀ q b, t.DeclaredAt cls q b → q.Before p → b.name ≠ a.name

/-- the bodies that are searched -/
def bodies (t : ClassTable) (cls : ClassRef) : List (List Attribute) :=
  (t.searched cls).map t.attributes

theorem mem_placed_iff : (p, a) ∈ placed (t.bodies cls) ↔ t.DeclaredAt cls p a := by
  rw [mem_placed]
  unfold bodies DeclaredAt
  simp [List.getElem?_map, Option.map_eq_some_iff]

theorem isFirst_iff : IsFirst (placed (t.bodies cls)) (p, a) ↔ t.FirstAt cls p a := by
  unfold IsFirst FirstAt
  rw [mem_placed_iff]
  refine and_congr_right fun _ => ⟨fun h q b hb => ?_, fun h y hy => ?_⟩
  · exact h (q, b) (mem_placed_iff.mpr hb)
  · exact h y.1 y.2 (mem_placed_iff.mp hy)

theorem visibleAttributes_eq :
    t.visibleAttributes cls = firstNamed ((placed (t.bodies cls)).map (·.2)) := by
  rw [map_snd_placed]
  unfold visibleAttributes bodies searched
  rw [List.flatMap_def]

theorem firstAt_zero (h : t.DeclaredAt cls ⟨0, 0⟩ a) : t.FirstAt cls ⟨0, 0⟩ a := by
  refine ⟨h, fun q b _ hbefore => ?_⟩
  rcases hbefore with hbody | ⟨-, hentry⟩
  · exact absurd hbody (Nat.not_lt_zero _)
  · exact absurd hentry (Nat.not_lt_zero _)

theorem FirstAt.unique (ha : t.FirstAt cls p a) (hb : t.FirstAt cls q b) (hname : a.name = b.name) :
    p = q ∧ a = b := by
  obtain ⟨⟨i, hi, hentry⟩, hfirst⟩ := ha
  obtain ⟨⟨j, hj, hentry'⟩, hfirst'⟩ := hb
  rcases p.eq_or_before q with rfl | hbefore | hbefore
  · rw [hi] at hj
    obtain rfl := Option.some.inj hj
    rw [hentry] at hentry'
    exact ⟨rfl, Option.some.inj hentry'⟩
  · exact absurd hname (hfirst' p a ⟨i, hi, hentry⟩ hbefore)
  · exact absurd hname.symm (hfirst q b ⟨j, hj, hentry'⟩ hbefore)

theorem exists_placed_methods (t : ClassTable) (cls : ClassRef) :
    ∃ made : List (Place × Attribute), made.Pairwise (·.1.Before ·.1) ∧
      (∀ x ∈ made, t.FirstAt cls x.1 x.2) ∧
      List.Forall₂ (fun x method => x.2.method? (.ofClass cls) = some method) made
        (t.shownMethods cls) := by
  obtain ⟨firsts, hsub, hmap, hiff⟩ := exists_firstNamed (pairwise_placed (t.bodies cls))
  obtain ⟨made, hmade, hforall⟩ :=
    exists_sublist_filterMap (fun x => x.2.method? (.ofClass cls)) firsts
  have hmethods : t.shownMethods cls = firsts.filterMap fun x => x.2.method? (.ofClass cls) := by
    unfold shownMethods
    rw [visibleAttributes_eq, ← hmap, List.filterMap_map]
    rfl
  refine ⟨made, (pairwise_placed _).sublist (hmade.trans hsub), fun x hx => ?_, hmethods ▸ hforall⟩
  exact isFirst_iff.mp ((hiff x).mp (hmade.subset hx))

theorem mem_shownMethods_iff {method : Method} : method ∈ t.shownMethods cls ↔
    ∃ p a, t.FirstAt cls p a ∧ a.method? (.ofClass cls) = some method := by
  obtain ⟨firsts, -, hmap, hiff⟩ := exists_firstNamed (pairwise_placed (t.bodies cls))
  unfold shownMethods
  rw [visibleAttributes_eq, ← hmap, List.mem_filterMap]
  constructor
  · rintro ⟨a, ha, hmethod⟩
    obtain ⟨⟨p, a⟩, hmem, rfl⟩ := List.mem_map.mp ha
    exact ⟨p, a, isFirst_iff.mp ((hiff _).mp hmem), hmethod⟩
  · rintro ⟨p, a, hfirst, hmethod⟩
    exact ⟨a, List.mem_map.mpr ⟨(p, a), (hiff _).mpr (isFirst_iff.mpr hfirst), rfl⟩, hmethod⟩

theorem nodup_shownMethods (t : ClassTable) (cls : ClassRef) :
    ((t.shownMethods cls).map (·.name)).Nodup := by
  obtain ⟨made, hsub, hforall⟩ :=
    exists_sublist_filterMap (Attribute.method? (.ofClass cls)) (t.visibleAttributes cls)
  have hnames : (t.shownMethods cls).map (·.name) = made.map (·.name) :=
    map_eq_of_forall₂ (fun a method h => (Attribute.method?_eq_some_iff.mp h).2.1) hforall
  rw [hnames]
  exact (nodup_firstNamed _).sublist (hsub.map _)

theorem refusal?_eq_some_iff {failure : Failure} : t.refusal? cls = some failure ↔
    ∃ p a, t.FirstAt cls p a ∧ a.member.Refuses failure ∧
      ∀ q b other, t.FirstAt cls q b → q.Before p → ¬ b.member.Refuses other := by
  obtain ⟨firsts, hsub, hmap, hiff⟩ := exists_firstNamed (pairwise_placed (t.bodies cls))
  have hmem : ∀ p a, (p, a) ∈ firsts ↔ t.FirstAt cls p a := fun p a => (hiff _).trans isFirst_iff
  unfold refusal?
  rw [visibleAttributes_eq, ← hmap, findSome?_placed ((pairwise_placed _).sublist hsub)]
  constructor
  · rintro ⟨⟨p, a⟩, hx, hrefuses, hnone⟩
    refine ⟨p, a, (hmem p a).mp hx, Member.refusal?_eq_some_iff.mp hrefuses, ?_⟩
    intro q b other hfirst hbefore hother
    have hb := hnone (q, b) ((hmem q b).mpr hfirst) hbefore
    rw [Member.refusal?_eq_some_iff.mpr hother] at hb
    cases hb
  · rintro ⟨p, a, hfirst, hrefuses, hnone⟩
    refine ⟨(p, a), (hmem p a).mpr hfirst, Member.refusal?_eq_some_iff.mpr hrefuses, ?_⟩
    rintro ⟨q, b⟩ hy hbefore
    rw [Option.eq_none_iff_forall_ne_some]
    intro other hother
    exact hnone q b other ((hmem q b).mp hy) hbefore (Member.refusal?_eq_some_iff.mp hother)

theorem methods_eq_error_iff {failure : Failure} : t.methods cls = .error failure ↔
    ∃ p a, t.FirstAt cls p a ∧ a.member.Refuses failure ∧
      ∀ q b other, t.FirstAt cls q b → q.Before p → ¬ b.member.Refuses other := by
  rw [← refusal?_eq_some_iff, methods_eq]
  cases t.refusal? cls with
  | some f => simp only [Except.error.injEq, Option.some.injEq]
  | none => exact ⟨nofun, nofun⟩

theorem hasMethod_iff_of_mem {method : Method} {s : Shape} (hmem : method ∈ t.shownMethods cls) :
    t.directory.hasMethod cls s = true ↔
      method.fits s = true ∨ ∃ m ∈ t.shownMethods cls, m.name ≠ method.name ∧ m.fits s = true := by
  rw [Directory.hasMethod_iff]
  constructor
  · rintro ⟨m, hm, hfits⟩
    by_cases hname : m.name = method.name
    · rw [← List.inj_on_of_nodup_map (nodup_shownMethods t cls) hm hmem hname]
      exact .inl hfits
    · exact .inr ⟨m, hm, hname, hfits⟩
  · rintro (hfits | ⟨m, hm, -, hfits⟩)
    · exact ⟨method, hmem, hfits⟩
    · exact ⟨m, hm, hfits⟩

theorem visibleAttributes_singleton {i : ClassInfo} (hbases : i.bases = [])
    (hframework : isFramework i.ref = false) :
    visibleAttributes [i] i.ref = firstNamed (attributes [i] i) := by
  have hancestry : ancestry [i] i.ref = [i] := by
    simp [ancestry, resolutionOrder, ordersFrom, orderFrom_of_no_bases _ hbases, Orders.of, info]
  have hown : [i].filter (fun i => !isFramework i.ref) = [i] := by
    rw [List.filter_singleton, hframework]
    rfl
  rw [visibleAttributes, hancestry, hown, List.flatMap_singleton]

end ClassTable

/-- the method has the shape, but for local names -/
def Method.Answers (method : Method) (s : Shape) : Prop :=
  (∀ name ∈ s.name, name = method.name) ∧ method.isStatic = s.isStatic ∧
    method.params.map (TypeName.aliased []) = s.takes.map (TypeName.aliased []) ∧
    method.returns.aliased [] = s.returns.aliased []

theorem find?_eq_some_iff_answers {methods : List Method} {s : Shape} {method : Method} :
    methods.find? (·.fits s) = some method ↔ ∃ before behind,
      methods = before ++ method :: behind ∧ method.Answers s ∧
        ∀ other ∈ before, ¬ other.Answers s := by
  have hanswers (m : Method) : m.fits s = true ↔ m.Answers s := Method.fits_iff
  rw [List.find?_eq_some_iff_append, hanswers]
  simp only [Bool.not_eq_true', Bool.not_eq_true, ← hanswers]
  constructor
  · rintro ⟨hfits, before, behind, heq, hnone⟩
    exact ⟨before, behind, heq, hfits, hnone⟩
  · rintro ⟨before, behind, heq, hfits, hnone⟩
    exact ⟨hfits, before, behind, heq, hnone⟩

theorem find?_eq_none_iff_answers {methods : List Method} {s : Shape} :
    methods.find? (·.fits s) = none ↔ ∀ method ∈ methods, ¬ method.Answers s := by
  have hanswers (m : Method) : m.fits s = true ↔ m.Answers s := Method.fits_iff
  rw [List.find?_eq_none]
  simp only [hanswers]

namespace ClassTable

/-- A class refuses to list its methods exactly if a first declaration of a name refuses to be read,
and then fails as the front one of these does.  Otherwise it lists no two methods of one name, and
its methods are the first declarations of their names that can be read as methods, each with the
types of that very declaration, in the order of these.  A first declaration that can not be read
hides all others of its name.  A shape is answered by the first method that has it. -/
theorem lists_first_declared (t : ClassTable) (cls : ClassRef) :
    (∀ failure, t.methods cls = .error failure ↔ ∃ p a, t.FirstAt cls p a ∧
      a.member.Refuses failure ∧
        ∀ q b other, t.FirstAt cls q b → q.Before p → ¬ b.member.Refuses other) ∧
    (∀ methods, t.methods cls = .ok methods →
      (methods.map (·.name)).Nodup ∧
      (∀ method, method ∈ methods ↔ ∃ p a, t.FirstAt cls p a ∧
        method.owner = .ofClass cls ∧ method.name = a.name ∧
          a.member.IsMethod method.isStatic method.params method.returns) ∧
      (∀ p a, t.FirstAt cls p a →
        ((∃ method ∈ methods, method.name = a.name) ↔
          ∃ isStatic types returns, a.member.IsMethod isStatic types returns)) ∧
      ∃ places : List Place, places.Pairwise Place.Before ∧
        List.Forall₂ (fun p method => ∃ a, t.FirstAt cls p a ∧ a.name = method.name) places
          methods) ∧
    ∀ s : Shape,
      (∀ failure, t.findMethod cls s = .error failure ↔ t.methods cls = .error failure) ∧
      (∀ method, t.findMethod cls s = .ok (some method) ↔ ∃ before behind,
        t.methods cls = .ok (before ++ method :: behind) ∧ method.Answers s ∧
          ∀ other ∈ before, ¬ other.Answers s) ∧
      (t.findMethod cls s = .ok none ↔
        ∃ methods, t.methods cls = .ok methods ∧ ∀ method ∈ methods, ¬ method.Answers s) := by
  refine ⟨fun failure => methods_eq_error_iff, fun methods h => ?_, fun s => ?_⟩
  · obtain ⟨-, rfl⟩ := methods_eq_ok_iff.mp h
    refine ⟨nodup_shownMethods t cls, fun method => ?_, fun p a hfirst => ⟨?_, ?_⟩, ?_⟩
    · simp only [mem_shownMethods_iff, Attribute.method?_eq_some_iff]
    · rintro ⟨method, hmem, hname⟩
      obtain ⟨q, b, hb, hmethod⟩ := mem_shownMethods_iff.mp hmem
      obtain ⟨-, hb', h⟩ := Attribute.method?_eq_some_iff.mp hmethod
      obtain ⟨-, rfl⟩ := hfirst.unique hb (hname.symm.trans hb')
      exact ⟨_, _, _, h⟩
    · rintro ⟨isStatic, types, returns, h⟩
      exact ⟨⟨.ofClass cls, a.name, types, returns, isStatic⟩, mem_shownMethods_iff.mpr
        ⟨p, a, hfirst, Attribute.method?_eq_some_iff.mpr ⟨rfl, rfl, h⟩⟩, rfl⟩
    · obtain ⟨made, hsorted, hfirst, hforall⟩ := exists_placed_methods t cls
      refine ⟨made.map (·.1), List.pairwise_map.mpr hsorted, List.forall₂_map_left_iff.mpr ?_⟩
      refine forall₂_imp_of_mem hforall fun x hx method _ hmethod => ?_
      exact ⟨x.2, hfirst x hx, (Attribute.method?_eq_some_iff.mp hmethod).2.1.symm⟩
  · unfold findMethod
    cases t.methods cls with
    | error f =>
      refine ⟨fun _ => ?_, fun _ => ⟨nofun, nofun⟩, nofun, nofun⟩
      rw [Except.map, Except.error.injEq, Except.error.injEq]
    | ok methods =>
      refine ⟨fun _ => ⟨nofun, nofun⟩, fun method => ?_, ?_⟩
      · rw [Except.map, Except.ok.injEq, find?_eq_some_iff_answers]
        simp only [Except.ok.injEq]
      · rw [Except.map, Except.ok.injEq, find?_eq_none_iff_answers]
        exact ⟨fun h => ⟨methods, rfl, h⟩, fun ⟨_, heq, h⟩ => Except.ok.inj heq ▸ h⟩

/-! ### overrides without types -/

def storeRef : ClassRef := { name := "Store", module := "app" }
def cacheRef : ClassRef := { name := "Cache", module := "app" }

def loadWith (key : Option Hint) : Attribute :=
  ⟨"load", .instance { params := [{ name := "key", hint := key }], returns := some Platform.int }⟩

/-- a class with a method, and one behind it that overrides the method without a type -/
def stores : ClassTable :=
  [{ ref := storeRef, attributes := [loadWith (some Platform.str)] },
    { ref := cacheRef, bases := [storeRef], attributes := [loadWith none] }]

def boxRef : ClassRef := { name := "Box", module := "app" }
def crateRef : ClassRef := { name := "Crate", module := "app" }

/-- a class that compares itself with a number, and a dataclass behind it -/
def boxes : ClassTable :=
  [{ ref := boxRef
     attributes := [Platform.method "__eq__" [("other", Platform.int)] Platform.bool,
       Platform.method "size" [] Platform.int] },
    { ref := crateRef, bases := [boxRef], kind := .dataclass
      fields := [{ name := "width", hint := Platform.int }] }]

theorem not_isMethod_loadWith {isStatic : Bool} {types : List TypeName} {returns : TypeName} :
    ¬ (loadWith none).member.IsMethod isStatic types returns := by
  rintro ⟨-, -, hparams, -⟩
  cases hparams with
  | cons hp _ => exact nomatch hp.2

set_option maxRecDepth 10000 in
/-- An override without types, written or generated, is no method, and the method behind it is not
listed either. -/
theorem hides_overridden :
    (stores.searched cacheRef).map (·.ref) = [cacheRef, storeRef] ∧
      (∃ methods, stores.methods storeRef = .ok methods ∧ ∃ m ∈ methods, m.name = "load") ∧
      (∃ methods, stores.methods cacheRef = .ok methods ∧ ¬ ∃ m ∈ methods, m.name = "load") ∧
      (boxes.methods boxRef).map (·.map (·.name)) = .ok ["__eq__", "size"] ∧
      (boxes.methods crateRef).map (·.map (·.name)) = .ok ["__init__", "size"] := by
  have hfirst : stores.FirstAt cacheRef ⟨0, 0⟩ (loadWith none) :=
    firstAt_zero ⟨stores.info cacheRef, by rfl, by rfl⟩
  have hbase : stores.refusal? storeRef = none := by decide +kernel
  have hcache : stores.methods cacheRef = .ok (stores.shownMethods cacheRef) :=
    methods_eq_ok_iff.mpr ⟨by decide +kernel, rfl⟩
  obtain ⟨-, hlisted, -⟩ := lists_first_declared stores cacheRef
  obtain ⟨-, -, hhides, -⟩ := hlisted _ hcache
  refine ⟨by decide +kernel, ⟨_, methods_eq_ok_iff.mpr ⟨hbase, rfl⟩, ?_⟩, ⟨_, hcache, fun h => ?_⟩,
    by decide +kernel, by decide +kernel⟩
  · have hnames : (stores.shownMethods storeRef).map (·.name) = ["load"] := by decide +kernel
    exact List.mem_map.mp (hnames ▸ List.mem_cons_self)
  · obtain ⟨_, _, _, hmethod⟩ := (hhides _ _ hfirst).mp h
    exact not_isMethod_loadWith hmethod

/-! ### a quoted type that is no expression -/

def paneRef : ClassRef := { name := "Pane", module := "app" }

def area : FunctionInfo := { returns := some Platform.int }

/-- a class with a method, and with another one whose parameter has a type given in words -/
def panes : ClassTable :=
  [{ ref := paneRef
     attributes := [⟨"area", .instance area⟩,
       ⟨"scale", .instance {
         params := [{ name := "factor", hint := some (.text "the width" .malformed) }]
         returns := some Platform.int }⟩] }]

set_option maxRecDepth 10000 in
/-- the class declares a method that can be read, and yet refuses to list it -/
theorem not_lists_area :
    (∃ a, panes.FirstAt paneRef ⟨0, 0⟩ a ∧ a.name = "area" ∧
      a.member.IsMethod false [] (.ofClass (.builtin "int"))) ∧
    panes.methods paneRef = .error (.dangling ⟨"the width", .malformed⟩) ∧
    ¬ ∃ methods, panes.methods paneRef = .ok methods := by
  have hfirst : panes.FirstAt paneRef ⟨0, 0⟩ ⟨"area", .instance area⟩ :=
    firstAt_zero ⟨panes.info paneRef, by rfl, by rfl⟩
  have hshape : area.HasShape area.boundParams [] (.ofClass (.builtin "int")) :=
    ⟨rfl, by decide +kernel, .nil, _, rfl, rfl⟩
  have hrefusal : panes.refusal? paneRef = some (.dangling ⟨"the width", .malformed⟩) := by
    decide +kernel
  have hmethods : panes.methods paneRef = .error (.dangling ⟨"the width", .malformed⟩) := by
    rw [methods_eq, hrefusal]
  refine ⟨⟨_, hfirst, rfl, .instance hshape⟩, hmethods, ?_⟩
  rintro ⟨methods, h⟩
  rw [hmethods] at h
  cases h

/-! ### classes that refuse to list their methods -/

/-- a class that refuses is asked for nothing that it has -/
theorem hasMethod_guarded_iff {t : ClassTable} {settings : Settings} {cls : ClassRef} {s : Shape} :
    (t.guarded settings).directory.hasMethod cls s = true ↔
      t.refusal? cls = none ∧ (t.mapping settings).directory.hasMethod cls s = true := by
  rw [Directory.hasMethod_iff, Directory.hasMethod_iff]
  have hmethods : (t.guarded settings).directory.methods cls
      = if (t.refusal? cls).isSome then [] else t.shownMethods cls := rfl
  rw [hmethods]
  cases t.refusal? cls with
  | some f =>
    constructor
    · rintro ⟨method, hmem, -⟩
      exact absurd hmem List.not_mem_nil
    · rintro ⟨hlists, -⟩
      cases hlists
  | none => exact ⟨fun h => ⟨rfl, h⟩, fun h => h.2⟩

/-- An adapter is accepted if it has the methods that its use asks for, and lists them as far as it
is asked for one at all. -/
theorem checkAdapter_guarded_iff {t : ClassTable} {settings : Settings} {cls : ClassRef}
    {directions : Directions} {property : Property} :
    (t.guarded settings).checkAdapter directions property cls = .ok () ↔
      (t.mapping settings).checkAdapter directions property cls = .ok () ∧
        (directions.read = true ∨ directions.write = true → t.refusal? cls = none) := by
  have hshapes : (t.guarded settings).readShape property.type
      = (t.mapping settings).readShape property.type ∧
      (t.guarded settings).writeShape property.type
      = (t.mapping settings).writeShape property.type := ⟨rfl, rfl⟩
  rw [Mapping.checkAdapter_eq_ok_iff, Mapping.checkAdapter_eq_ok_iff, hasMethod_guarded_iff,
    hasMethod_guarded_iff, hshapes.1, hshapes.2]
  tauto

end ClassTable
end RowMapping
