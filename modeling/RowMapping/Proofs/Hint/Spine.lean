import RowMapping.Proofs.Correspondence
import RowMapping.Proofs.Hint.Bare

/-!
# The spine of a hint

The spine of a hint are the annotated layers and unions at its top.  A marker on it is found along
a path: into the hint under a layer, or into a member of a union.  The markers are ordered by
their places: inside a layer from left to right, what is under a layer before the layer itself,
and what is in a member before what is in those behind it.

* `Hint.marker?`, `Spot.Before`  the markers of a spine by their places, and the order of these;
* `map_snd_spine`, `mem_spine`, `pairwise_spine`  `split` takes each of them off once, in order;
* `Layered`  hints that are built from layers and unions over other hints;
* `ofLeaves_split`, `distinct_members_split`  what `split` leaves has no layer on its spine and has
  the leaves of the spine as its members.
-/

namespace RowMapping
namespace Hint

/-! ### places on a spine -/

/-- a step along a spine: into an annotated layer, or into a member of a union -/
inductive Step where
  | inside
  | member (i : Nat)

/-- what a path along the spine of a hint leads to -/
def at? : List Step → Hint → Option Hint
  | [], h => some h
  | .inside :: path, annotated h _ => at? path h
  | .member i :: path, union hs => hs[i]?.bind (at? path)
  | _ :: _, _ => Option.none

/-- the markers of the layer that a path leads to -/
def layer? (path : List Step) (h : Hint) : Option (List Marker) :=
  match at? path h with
  | some (annotated _ ms) => some ms
  | _ => Option.none

end Hint

/-- the place of a marker: the path to its layer, and the number of markers before it there -/
structure Spot where
  path : List Hint.Step
  index : Nat

def Spot.under (step : Hint.Step) (s : Spot) : Spot := { s with path := step :: s.path }

/-- The order of markers on a spine. -/
inductive Spot.Before : Spot → Spot → Prop
  | layer {path : List Hint.Step} {k l : Nat} (h : k < l) : Before ⟨path, k⟩ ⟨path, l⟩
  | inner (path rest : List Hint.Step) (k l : Nat) :
      Before ⟨path ++ .inside :: rest, k⟩ ⟨path, l⟩
  | left (path p q : List Hint.Step) (k l : Nat) {i j : Nat} (h : i < j) :
      Before ⟨path ++ .member i :: p, k⟩ ⟨path ++ .member j :: q, l⟩

theorem Spot.Before.under {s t : Spot} (h : s.Before t) (step : Hint.Step) :
    (s.under step).Before (t.under step) := by
  cases h with
  | layer h => exact .layer h
  | inner path rest k l => exact .inner (step :: path) rest k l
  | left path p q k l h => exact .left (step :: path) p q k l h

theorem Spot.Before.ne {s t : Spot} (h : s.Before t) : s ≠ t := by
  intro heq
  cases h with
  | layer h =>
    obtain ⟨-, hindex⟩ := Spot.mk.inj heq
    omega
  | inner path rest k l =>
    obtain ⟨hpath, -⟩ := Spot.mk.inj heq
    exact List.cons_ne_nil _ _ (List.append_right_eq_self.mp hpath)
  | left path p q k l h =>
    obtain ⟨hpath, -⟩ := Spot.mk.inj heq
    obtain ⟨hstep, -⟩ := List.cons.inj (List.append_cancel_left hpath)
    have hmember := Hint.Step.member.inj hstep
    omega

namespace Hint

/-- the marker at a place on the spine of a hint -/
def marker? (h : Hint) (s : Spot) : Option Marker := (h.layer? s.path).bind (·[s.index]?)

mutual

/-- the markers on a spine with their places -/
def spine : Hint → List (Spot × Marker)
  | annotated h ms =>
    (spine h).map (fun x => (x.1.under .inside, x.2)) ++ ms.zipIdx.map fun m => (⟨[], m.2⟩, m.1)
  | union hs => spineFrom 0 hs
  | _ => []

def spineFrom : Nat → List Hint → List (Spot × Marker)
  | _, [] => []
  | i, h :: hs => (spine h).map (fun x => (x.1.under (.member i), x.2)) ++ spineFrom (i + 1) hs

end

theorem spineFrom_eq (i : Nat) (hs : List Hint) : spineFrom i hs =
    (hs.zipIdx i).flatMap fun h => (spine h.1).map fun x => (x.1.under (.member h.2), x.2) := by
  induction hs generalizing i with
  | nil => rfl
  | cons h hs ih => rw [spineFrom, ih, List.zipIdx_cons, List.flatMap_cons]

/-! ### hints that are no layers -/

/-- whether a hint is neither an annotated layer nor a union -/
def isLeaf : Hint → Bool
  | annotated _ _ => false
  | union _ => false
  | _ => true

@[elab_as_elim]
theorem spine_ind {P : Hint → Prop} (leaf : ∀ h : Hint, h.isLeaf = true → P h)
    (annotated : ∀ h ms, P h → P (annotated h ms))
    (union : ∀ hs, (∀ h ∈ hs, P h) → P (union hs)) : ∀ h : Hint, P h := by
  intro h
  induction h using ind with
  | atomic h ha =>
    refine leaf h ?_
    cases h with
    | union _ => cases ha
    | annotated _ _ => cases ha
    | _ => rfl
  | union hs ih => exact union hs ih
  | generic c hs _ => exact leaf _ rfl
  | callable ps r _ _ => exact leaf _ rfl
  | annotated h ms ih => exact annotated h ms ih
  | list hs _ => exact leaf _ rfl
  | classVar h _ => exact leaf _ rfl

section
variable {h : Hint} (hleaf : h.isLeaf = true)
include hleaf

theorem split_of_leaf : split h = (h, []) := by
  cases h with
  | annotated _ _ => cases hleaf
  | union _ => cases hleaf
  | _ => rfl

theorem spine_of_leaf : spine h = [] := by
  cases h with
  | annotated _ _ => cases hleaf
  | union _ => cases hleaf
  | _ => rfl

theorem layer?_of_leaf (path : List Step) : layer? path h = Option.none := by
  cases h with
  | annotated _ _ => cases hleaf
  | union _ => cases hleaf
  | _ =>
    match path with
    | [] => rfl
    | .inside :: _ => rfl
    | .member _ :: _ => rfl

end

/-! ### taking the markers off -/

theorem layer?_member (i : Nat) (path : List Step) (hs : List Hint) :
    layer? (.member i :: path) (union hs) = hs[i]?.bind (layer? path) := by
  unfold layer?
  rw [at?]
  cases hs[i]? <;> rfl

theorem split_annotated (h : Hint) (ms : List Marker) :
    split (annotated h ms) = ((split h).1, (split h).2 ++ ms) := rfl

theorem split_union (hs : List Hint) : split (union hs) =
    if (hs.flatMap fun h => (split h).2).isEmpty then (union hs, [])
    else (unionOf (hs.map fun h => (split h).1), hs.flatMap fun h => (split h).2) := by
  rw [split, splitAll_eq_map, List.flatMap_map, List.map_map]
  rfl

theorem markers_split_union (hs : List Hint) :
    (split (union hs)).2 = hs.flatMap fun h => (split h).2 := by
  rw [split_union]
  split
  next hempty => exact (List.isEmpty_iff.mp hempty).symm
  next => rfl

theorem map_snd_spine (h : Hint) : (spine h).map (·.2) = (split h).2 := by
  induction h using spine_ind with
  | leaf h hleaf =>
    rw [spine_of_leaf hleaf, split_of_leaf hleaf]
    rfl
  | annotated h ms ih =>
    rw [spine, split_annotated, List.map_append, List.map_map, List.map_map, ← ih]
    congr 1
    exact List.zipIdx_map_fst 0 ms
  | union hs ih =>
    rw [spine, spineFrom_eq, markers_split_union, List.map_flatMap]
    conv_rhs => rw [← List.zipIdx_map_fst 0 hs, List.flatMap_map]
    refine List.flatMap_congr fun x hx => ?_
    rw [← ih x.1 (List.fst_mem_of_mem_zipIdx hx), List.map_map]
    rfl

theorem mem_spine (h : Hint) : ∀ s m, (s, m) ∈ spine h ↔ marker? h s = some m := by
  induction h using spine_ind with
  | leaf h hleaf =>
    intro s m
    rw [spine_of_leaf hleaf, marker?, layer?_of_leaf hleaf]
    exact ⟨nofun, nofun⟩
  | annotated h ms ih =>
    intro s m
    rw [spine, List.mem_append, List.mem_map, List.mem_map]
    constructor
    · rintro (⟨⟨t, n⟩, hx, heq⟩ | ⟨⟨n, k⟩, hn, heq⟩)
      · obtain ⟨rfl, rfl⟩ := Prod.mk.inj heq
        exact (ih t n).mp hx
      · obtain ⟨rfl, rfl⟩ := Prod.mk.inj heq
        exact List.mk_mem_zipIdx_iff_getElem?.mp hn
    · intro hm
      obtain ⟨path, k⟩ := s
      match path, hm with
      | [], hm => exact .inr ⟨(m, k), List.mk_mem_zipIdx_iff_getElem?.mpr hm, rfl⟩
      | .inside :: path, hm => exact .inl ⟨(⟨path, k⟩, m), (ih _ _).mpr hm, rfl⟩
  | union hs ih =>
    intro s m
    rw [spine, spineFrom_eq, List.mem_flatMap]
    constructor
    · rintro ⟨⟨h, i⟩, hh, hx⟩
      obtain ⟨⟨t, n⟩, htn, heq⟩ := List.mem_map.mp hx
      obtain ⟨rfl, rfl⟩ := Prod.mk.inj heq
      have hm := (ih h (List.fst_mem_of_mem_zipIdx hh) t n).mp htn
      have hi := List.mk_mem_zipIdx_iff_getElem?.mp hh
      rw [marker?, Spot.under, layer?_member, hi]
      exact hm
    · intro hm
      obtain ⟨path, k⟩ := s
      match path, hm with
      | .member i :: path, hm =>
        rw [marker?, layer?_member] at hm
        obtain ⟨ms, hms, hm⟩ := Option.bind_eq_some_iff.mp hm
        obtain ⟨h, hi, hms⟩ := Option.bind_eq_some_iff.mp hms
        refine ⟨(h, i), List.mk_mem_zipIdx_iff_getElem?.mpr hi, ?_⟩
        refine List.mem_map.mpr ⟨(⟨path, k⟩, m), (ih h (List.mem_of_getElem? hi) _ _).mpr ?_, rfl⟩
        rw [marker?, hms]
        exact hm

theorem pairwise_spine (h : Hint) : (spine h).Pairwise (·.1.Before ·.1) := by
  induction h using spine_ind with
  | leaf h hleaf =>
    rw [spine_of_leaf hleaf]
    exact .nil
  | annotated h ms ih =>
    rw [spine, List.pairwise_append]
    refine ⟨?_, ?_, fun x hx y hy => ?_⟩
    · exact List.pairwise_map.mpr (ih.imp fun hbefore => hbefore.under .inside)
    · exact List.pairwise_map.mpr ((pairwise_zipIdx ms).imp .layer)
    · obtain ⟨x, -, rfl⟩ := List.mem_map.mp hx
      obtain ⟨y, -, rfl⟩ := List.mem_map.mp hy
      exact .inner [] x.1.path x.1.index y.2
  | union hs ih =>
    rw [spine, spineFrom_eq, List.pairwise_flatMap]
    constructor
    · rintro ⟨h, i⟩ hh
      refine List.pairwise_map.mpr ((ih h (List.fst_mem_of_mem_zipIdx hh)).imp ?_)
      exact fun hbefore => hbefore.under (.member i)
    · refine (pairwise_zipIdx hs).imp fun {h k} hlt x hx y hy => ?_
      obtain ⟨x, -, rfl⟩ := List.mem_map.mp hx
      obtain ⟨y, -, rfl⟩ := List.mem_map.mp hy
      exact .left [] x.1.path y.1.path x.1.index y.1.index hlt

/-! ### hints built from layers and unions -/

mutual

/-- what stands under the layers and unions of a spine, from left to right -/
def leaves : Hint → List Hint
  | annotated h _ => leaves h
  | union hs => leavesAll hs
  | h => members h

def leavesAll : List Hint → List Hint
  | [] => []
  | h :: hs => leaves h ++ leavesAll hs

end

/-- A hint that is built from annotated layers and unions over leaves.  No layer is without
markers, no union stands right inside a union, and no class variable is a leaf of one. -/
inductive Layered : Hint → Prop
  | leaf {h : Hint} (hleaf : h.isLeaf = true) : Layered h
  | annotated {h : Hint} {ms : List Marker} (hms : ms ≠ []) (hh : h.Layered) :
      Layered (annotated h ms)
  | union {hs : List Hint} (hflat : ∀ h ∈ hs, h.Flat) (hall : ∀ h ∈ hs, h.Layered)
      (hvars : ∀ h ∈ hs, ∀ k ∈ leaves h, k.isClassVar = false) : Layered (union hs)

theorem leaves_union (hs : List Hint) : leaves (union hs) = hs.flatMap leaves := by
  rw [leaves]
  induction hs with
  | nil => rfl
  | cons h hs ih => rw [leavesAll, ih, List.flatMap_cons]

theorem leaves_of_leaf {h : Hint} (hleaf : h.isLeaf = true) : leaves h = members h := by
  cases h with
  | annotated _ _ => cases hleaf
  | union _ => cases hleaf
  | _ => rfl

/-- a leaf, or a union of leaves -/
def OfLeaves (h : Hint) : Prop := ∀ k ∈ members h, k.Flat ∧ k.isLeaf = true

theorem not_flat_union (hs : List Hint) : ¬ (union hs).Flat := by
  intro h
  have hself : hs = [union hs] := h
  have hsize := congrArg sizeOf hself
  rw [List.cons.sizeOf_spec, union.sizeOf_spec] at hsize
  omega

theorem isLeaf_named (h : Hint) : (named h).isLeaf = h.isLeaf := by
  rcases text_or_named h with ⟨n, e, rfl⟩ | hnamed
  · rfl
  · rw [hnamed]

theorem ofLeaves_of_leaf {h : Hint} (hleaf : h.isLeaf = true) : h.OfLeaves := by
  rcases union_or_members h with ⟨hs, rfl⟩ | ⟨hmembers, hflat⟩
  · cases hleaf
  · intro k hk
    rw [hmembers, List.mem_singleton] at hk
    rw [hk, isLeaf_named]
    exact ⟨hflat, hleaf⟩

theorem members_ofMembers_of_flat {hs : List Hint} (hflat : ∀ h ∈ hs, h.Flat) :
    members (ofMembers hs) = hs := by
  match hs, hflat with
  | [], _ => rfl
  | [h], hflat => exact hflat h List.mem_cons_self
  | _ :: _ :: _, _ => rfl

theorem members_unionOf_of_ofLeaves {hs : List Hint} (hall : ∀ h ∈ hs, h.OfLeaves) :
    members (unionOf hs) = distinct (hs.flatMap members) := by
  refine members_ofMembers_of_flat fun k hk => ?_
  obtain ⟨h, hmem, hk⟩ := List.mem_flatMap.mp ((distinct_sublist _).mem hk)
  exact (hall h hmem k hk).1

theorem ofLeaves_unionOf {hs : List Hint} (hall : ∀ h ∈ hs, h.OfLeaves) : (unionOf hs).OfLeaves := by
  intro k hk
  rw [members_unionOf_of_ofLeaves hall] at hk
  obtain ⟨h, hmem, hk⟩ := List.mem_flatMap.mp ((distinct_sublist _).mem hk)
  exact hall h hmem k hk

theorem OfLeaves.layer?_eq_none {h : Hint} (hleaves : h.OfLeaves) (path : List Step) :
    layer? path h = Option.none := by
  cases hleaf : h.isLeaf with
  | true => exact layer?_of_leaf hleaf path
  | false =>
    cases h with
    | annotated h ms => cases hleaf.symm.trans (hleaves _ List.mem_cons_self).2
    | union hs =>
      match path with
      | [] => rfl
      | .inside :: _ => rfl
      | .member i :: path =>
        rw [layer?_member, Option.bind_eq_none_iff]
        exact fun k hk => layer?_of_leaf (hleaves k (List.mem_of_getElem? hk)).2 path
    | _ => cases hleaf

theorem isLeaf_of_markers_eq_nil {h : Hint} (hl : h.Layered) (hflat : h.Flat)
    (hmarkers : (split h).2 = []) : h.isLeaf = true := by
  cases hl with
  | leaf hleaf => exact hleaf
  | annotated hms =>
    rw [split_annotated, List.append_eq_nil_iff] at hmarkers
    exact absurd hmarkers.2 hms
  | union => exact absurd hflat (not_flat_union _)

/-- without the markers of its spine, a hint is a leaf or a union of leaves -/
theorem Layered.ofLeaves_split {h : Hint} (hl : h.Layered) : (split h).1.OfLeaves := by
  induction hl with
  | leaf hleaf =>
    rw [split_of_leaf hleaf]
    exact ofLeaves_of_leaf hleaf
  | annotated _ _ ih => exact ih
  | @union hs hflat hall _ ih =>
    rw [split_union]
    split
    next hempty =>
      have hnone := List.flatMap_eq_nil_iff.mp (List.isEmpty_iff.mp hempty)
      exact fun k hk => ⟨hflat k hk, isLeaf_of_markers_eq_nil (hall k hk) (hflat k hk) (hnone k hk)⟩
    next => exact ofLeaves_unionOf (List.forall_mem_map.mpr ih)

/-- What is left without the markers of a spine has the leaves of the spine as its members. -/
theorem Layered.distinct_members_split {h : Hint} (hl : h.Layered) :
    distinct (members (split h).1) = distinct (leaves h) := by
  induction hl with
  | leaf hleaf => rw [split_of_leaf hleaf, leaves_of_leaf hleaf]
  | annotated _ _ ih => exact ih
  | @union hs hflat hall _ ih =>
    rw [split_union, leaves_union]
    split
    next hempty =>
      have hnone := List.flatMap_eq_nil_iff.mp (List.isEmpty_iff.mp hempty)
      have hleaves : hs.flatMap leaves = hs.flatMap members := List.flatMap_congr fun k hk =>
        leaves_of_leaf (isLeaf_of_markers_eq_nil (hall k hk) (hflat k hk) (hnone k hk))
      rw [hleaves, flatMap_members_eq_self hflat]
      rfl
    next =>
      have hparts : ∀ k ∈ hs.map fun h => (split h).1, k.OfLeaves :=
        List.forall_mem_map.mpr fun k hk => (hall k hk).ofLeaves_split
      rw [members_unionOf_of_ofLeaves hparts, distinct_distinct, List.flatMap_map]
      exact distinct_flatMap_congr ih

end Hint
end RowMapping
