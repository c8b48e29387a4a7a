import RowMapping.Hint.Described
import RowMapping.Proofs.Hint.Unions

/-!
# Described hints are normal

Whatever hint a description is read as, its unions are in normal form, as long as every union in the
description has a member: there is no union of nothing.

* `normal_of_ofValue?`  described hints are normal.
-/

namespace RowMapping

/-! ### descriptions -/

def Value.isEmptyList : Value → Bool
  | .list [] => true
  | _ => false

mutual

/-- whether every union in a description has a member -/
def Value.describesUnions : Value → Bool
  | .list items => describesUnionsAll items
  | .table entries => describesUnionsIn entries
  | _ => true

def Value.describesUnionsAll : List Value → Bool
  | [] => true
  | v :: vs => describesUnions v && describesUnionsAll vs

def Value.describesUnionsIn : List (String × Value) → Bool
  | [] => true
  | (key, v) :: rest =>
    !((key == "union" || key == "bar") && isEmptyList v) && describesUnions v
      && describesUnionsIn rest

end

theorem describesUnions_of_lookup {entries : List (String × Value)} {key : String} {v : Value}
    (hv : entries.lookup key = some v) (h : Value.describesUnionsIn entries = true) :
    v.describesUnions = true ∧
      ((key == "union" || key == "bar") = true → v.isEmptyList = false) := by
  induction entries with
  | nil => cases hv
  | cons e rest ih =>
    obtain ⟨k, w⟩ := e
    rw [Value.describesUnionsIn, Bool.and_eq_true, Bool.and_eq_true] at h
    obtain ⟨⟨hunion, hw⟩, hrest⟩ := h
    by_cases hk : (key == k) = true
    · rw [List.lookup_cons, hk] at hv
      obtain rfl := Option.some.inj hv
      obtain rfl := eq_of_beq hk
      refine ⟨hw, fun hkey => ?_⟩
      rw [hkey, Bool.true_and] at hunion
      simpa using hunion
    · rw [Bool.not_eq_true] at hk
      rw [List.lookup_cons, hk] at hv
      exact ih hv hrest

namespace Hint

/-! ### how hints are built -/

theorem normal_annotate {h : Hint} (hn : h.Normal) (ms : List Marker) : (h.annotate ms).Normal := by
  have hnamed := normal_named hn
  unfold annotate
  split
  next k inner hk =>
    rw [hk] at hnamed
    exact .annotated (normal_annotated_iff.mp hnamed)
  next => exact .annotated hnamed

theorem normal_optional {h : Hint} (hn : h.Normal) : h.optional.Normal := by
  refine normal_unionOf (List.cons_ne_nil _ _) ?_
  exact List.forall_mem_cons.mpr ⟨hn, List.forall_mem_singleton.mpr (.atomic rfl)⟩

theorem normal_ofText (s : String) : (ofText s).Normal := by
  refine .atomic ?_
  unfold ofText
  split_ifs <;> rfl

end Hint

/-! ### parts and tables of parts -/

/-- a part of a description whose hints are all normal -/
def Piece.Normal (piece : Piece) : Prop :=
  ∀ hs, piece.params? = some hs → ∀ h ∈ hs, h.Normal

namespace Pieces
variable {p : Pieces} (hparts : ∀ key piece, p.read.lookup key = some piece → piece.Normal)
include hparts

theorem normal_of_one? {key : String} {h : Hint} (e : p.one? key = some h) : h.Normal := by
  obtain ⟨piece, hpiece, hone⟩ := Option.bind_eq_some_iff.mp e
  cases piece with
  | one k =>
    have hparams : (Piece.one k).params? = some [h] := by
      show k.map (fun l => [l]) = some [h]
      rw [show k = some h from hone]
      rfl
    exact hparts key _ hpiece [h] hparams h List.mem_cons_self
  | many ks => cases hone

theorem normal_of_many? {key : String} {hs : List Hint} (e : p.many? key = some hs) :
    ∀ h ∈ hs, h.Normal := by
  obtain ⟨piece, hpiece, hmany⟩ := Option.bind_eq_some_iff.mp e
  cases piece with
  | one k => cases hmany
  | many ks => exact hparts key _ hpiece hs hmany

/-- a table with normal parts describes a normal hint, if no union of it is empty -/
theorem normal_of_hint? (hunion : ∀ key ∈ ["union", "bar"], p.many? key ≠ some []) {h : Hint}
    (e : p.hint? = some h) : h.Normal := by
  obtain ⟨reading, hmem, rfl⟩ := List.exists_of_findSome?_eq_some e
  have hunionOf : ∀ key ∈ ["union", "bar"], (p.many? key).map .unionOf = some h → h.Normal := by
    intro key hkey e
    obtain ⟨hs, hmany, rfl⟩ := Option.map_eq_some_iff.mp e
    refine Hint.normal_unionOf ?_ (normal_of_many? hparts hmany)
    rintro rfl
    exact hunion key hkey hmany
  have hatomic : ∀ {α : Type} {x : Option α} {f : α → Hint}, (∀ y, (f y).atomic = true) →
      some h = x.map f → h.Normal := by
    intro α x f hf e
    obtain ⟨y, -, rfl⟩ := Option.map_eq_some_iff.mp e.symm
    exact .atomic (hf y)
  simp only [readings, List.mem_cons, List.not_mem_nil, or_false] at hmem
  rcases hmem with e | e | e | e | e | e | e | e | e | e | e | e | e | e | e
  · exact hatomic (fun _ => rfl) e
  · exact hatomic (fun _ => rfl) e
  · exact hunionOf "union" (by simp) e.symm
  · exact hunionOf "bar" (by simp) e.symm
  · obtain ⟨k, hone, rfl⟩ := Option.map_eq_some_iff.mp e.symm
    exact Hint.normal_optional (normal_of_one? hparts hone)
  · obtain ⟨origin, -, e⟩ := Option.bind_eq_some_iff.mp e.symm
    obtain ⟨hs, hmany, rfl⟩ := Option.map_eq_some_iff.mp e
    exact .generic (normal_of_many? hparts hmany)
  · obtain ⟨params, hparams, e⟩ := Option.bind_eq_some_iff.mp e.symm
    obtain ⟨piece, hpiece, hparams⟩ := Option.bind_eq_some_iff.mp hparams
    obtain ⟨r, hr, rfl⟩ := Option.map_eq_some_iff.mp e
    exact .callable (hparts _ _ hpiece params hparams) (normal_of_one? hparts hr)
  · obtain ⟨k, hone, e⟩ := Option.bind_eq_some_iff.mp e.symm
    obtain ⟨ms, -, rfl⟩ := Option.map_eq_some_iff.mp e
    exact Hint.normal_annotate (normal_of_one? hparts hone) ms
  · obtain ⟨hs, hmany, rfl⟩ := Option.map_eq_some_iff.mp e.symm
    exact .list (normal_of_many? hparts hmany)
  · unfold literal? at e
    split at e
    · exact hatomic (fun _ => rfl) e
    · cases e
  · obtain ⟨k, hone, rfl⟩ := Option.map_eq_some_iff.mp e.symm
    exact .classVar (Hint.normal_named (normal_of_one? hparts hone))
  · exact hatomic (fun _ => rfl) e
  · exact hatomic (fun _ => rfl) e
  · exact hatomic (fun _ => rfl) e
  · exact hatomic (fun _ => rfl) e

end Pieces

/-! ### descriptions of hints -/

theorem some_mem_of_mapM {α : Type} {xs : List (Option α)} {as : List α} {a : α}
    (h : xs.mapM id = some as) (ha : a ∈ as) : some a ∈ xs := by
  induction xs generalizing as with
  | nil =>
    cases h
    cases ha
  | cons x xs ih =>
    rw [List.mapM_cons] at h
    obtain ⟨b, hb, h⟩ := Option.bind_eq_some_iff.mp h
    obtain ⟨bs, hbs, h⟩ := Option.bind_eq_some_iff.mp h
    cases h
    rcases List.mem_cons.mp ha with rfl | ha
    · exact List.mem_cons.mpr (.inl hb.symm)
    · exact List.mem_cons_of_mem x (ih hbs ha)

theorem lookup_piecesOf (entries : List (String × Value)) (key : String) :
    (Hint.piecesOf entries).lookup key = (entries.lookup key).map Hint.pieceOf := by
  induction entries with
  | nil =>
    rw [Hint.piecesOf]
    rfl
  | cons e rest ih =>
    obtain ⟨k, v⟩ := e
    rw [Hint.piecesOf, List.lookup_cons, List.lookup_cons, ih]
    cases key == k <;> rfl

theorem list_or_pieceOf (v : Value) :
    (∃ items, v = .list items) ∨ Hint.pieceOf v = .one (Hint.ofValue? v) := by
  cases v <;> simp [Hint.pieceOf]

theorem many?_ne_nil {entries : List (String × Value)} {key : String}
    (h : Value.describesUnionsIn entries = true) (hkey : (key == "union" || key == "bar") = true) :
    Pieces.many? ⟨entries, Hint.piecesOf entries⟩ key ≠ some [] := by
  intro hmany
  rw [Pieces.many?, lookup_piecesOf] at hmany
  obtain ⟨piece, hpiece, hmany⟩ := Option.bind_eq_some_iff.mp hmany
  obtain ⟨v, hv, rfl⟩ := Option.map_eq_some_iff.mp hpiece
  have hne := (describesUnions_of_lookup hv h).2 hkey
  rcases list_or_pieceOf v with ⟨items, rfl⟩ | hone
  · rw [Hint.pieceOf] at hmany
    cases items with
    | nil => cases hne
    | cons w items =>
      have hmany : (Hint.listOf (w :: items)).mapM id = some [] := hmany
      rw [Hint.listOf, List.mapM_cons] at hmany
      obtain ⟨b, -, hmany⟩ := Option.bind_eq_some_iff.mp hmany
      obtain ⟨bs, -, hmany⟩ := Option.bind_eq_some_iff.mp hmany
      cases hmany
  · rw [hone] at hmany
    cases hmany

mutual

/-- described hints have their unions in normal form -/
theorem normal_of_ofValue? : ∀ (v : Value) {h : Hint}, v.describesUnions = true →
    Hint.ofValue? v = some h → h.Normal
  | .text s, h, _, e => by
    rw [Hint.ofValue?] at e
    cases e
    exact Hint.normal_ofText s
  | .table entries, h, hv, e => by
    rw [Hint.ofValue?] at e
    rw [Value.describesUnions] at hv
    refine Pieces.normal_of_hint? ?_ ?_ e
    · intro key piece hpiece
      have hpiece : (Hint.piecesOf entries).lookup key = some piece := hpiece
      exact normal_of_piecesOf entries hv hpiece
    · intro key hkey
      exact many?_ne_nil hv (by simpa using hkey)
  | .null, _, _, e | .bool _, _, _, e | .int _, _, _, e | .float _, _, _, e | .moment, _, _, e
  | .list _, _, _, e => by
    simp only [Hint.ofValue?] at e
    cases e
    exact .atomic rfl

theorem normal_of_listOf : ∀ (items : List Value) {h : Hint},
    Value.describesUnionsAll items = true → some h ∈ Hint.listOf items → h.Normal
  | [], _, _, hmem => by simp [Hint.listOf] at hmem
  | v :: vs, h, hitems, hmem => by
    rw [Value.describesUnionsAll, Bool.and_eq_true] at hitems
    rw [Hint.listOf, List.mem_cons] at hmem
    rcases hmem with e | hmem
    · exact normal_of_ofValue? v hitems.1 e.symm
    · exact normal_of_listOf vs hitems.2 hmem

theorem normal_of_pieceOf (v : Value) (hv : v.describesUnions = true) :
    (Hint.pieceOf v).Normal := by
  intro hs hparams h hmem
  rcases list_or_pieceOf v with ⟨items, rfl⟩ | hone
  · rw [Hint.pieceOf] at hparams
    rw [Value.describesUnions] at hv
    exact normal_of_listOf items hv (some_mem_of_mapM hparams hmem)
  · rw [hone] at hparams
    obtain ⟨k, hk, rfl⟩ := Option.map_eq_some_iff.mp hparams
    exact List.mem_singleton.mp hmem ▸ normal_of_ofValue? v hv hk

theorem normal_of_piecesOf : ∀ (entries : List (String × Value)) {key : String} {piece : Piece},
    Value.describesUnionsIn entries = true → (Hint.piecesOf entries).lookup key = some piece →
      piece.Normal
  | [], _, _, _, hpiece => by
    rw [Hint.piecesOf] at hpiece
    cases hpiece
  | (k, v) :: rest, key, piece, hentries, hpiece => by
    rw [Value.describesUnionsIn, Bool.and_eq_true, Bool.and_eq_true] at hentries
    rw [Hint.piecesOf, List.lookup_cons] at hpiece
    cases hk : key == k with
    | true =>
      rw [hk] at hpiece
      cases hpiece
      exact normal_of_pieceOf v hentries.1.2
    | false =>
      rw [hk] at hpiece
      exact normal_of_piecesOf rest hentries.2 hpiece

end

end RowMapping
