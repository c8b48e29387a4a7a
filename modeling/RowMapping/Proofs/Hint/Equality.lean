import Mathlib.Data.List.Forall2
import RowMapping.Hint.Naming

/-!
# Equality of hints

`ind` is induction over hints, with one case for all hints in which nothing is looked into, the
atomic ones.  By it, equality of hints is symmetric and transitive.  It is not reflexive: an
initialiser is equal to nothing.

* `ind`  the induction principle;
* `same_union_iff`, `same_generic_iff`, …  what is equal to a compound hint;
* `same_symm`, `same_trans`  equal hints may stand for each other.
-/

namespace RowMapping
namespace Hint

/-! ### induction -/

/-- the hints in which nothing is looked into -/
def atomic : Hint → Bool
  | union _ => false
  | generic _ _ => false
  | callable _ _ => false
  | annotated _ _ => false
  | list _ => false
  | classVar _ => false
  | _ => true

/-- induction over hints, with a hypothesis for each part of a compound one -/
@[elab_as_elim]
theorem ind {P : Hint → Prop} (atomic : ∀ h : Hint, h.atomic = true → P h)
    (union : ∀ hs, (∀ h ∈ hs, P h) → P (union hs))
    (generic : ∀ c hs, (∀ h ∈ hs, P h) → P (generic c hs))
    (callable : ∀ ps r, (∀ p ∈ ps, P p) → P r → P (callable ps r))
    (annotated : ∀ h ms, P h → P (annotated h ms))
    (list : ∀ hs, (∀ h ∈ hs, P h) → P (list hs))
    (classVar : ∀ h, P h → P (classVar h)) : ∀ h : Hint, P h := by
  intro h
  cases h with
  | union hs =>
    exact union hs fun h _ => ind atomic union generic callable annotated list classVar h
  | generic c hs =>
    exact generic c hs fun h _ => ind atomic union generic callable annotated list classVar h
  | callable ps r =>
    exact callable ps r (fun p _ => ind atomic union generic callable annotated list classVar p)
      (ind atomic union generic callable annotated list classVar r)
  | annotated h ms =>
    exact annotated h ms (ind atomic union generic callable annotated list classVar h)
  | list hs => exact list hs fun h _ => ind atomic union generic callable annotated list classVar h
  | classVar h => exact classVar h (ind atomic union generic callable annotated list classVar h)
  | _ => exact atomic _ rfl

/-! ### what is equal to a compound hint -/

theorem allIn_iff (hs ks : List Hint) :
    allIn hs ks = true ↔ ∀ h ∈ hs, ∃ k ∈ ks, same h k = true := by
  induction hs with
  | nil => simp [allIn]
  | cons h hs ih => rw [allIn, Bool.and_eq_true, ih, List.any_eq_true, List.forall_mem_cons]

theorem someSame_iff (hs : List Hint) (k : Hint) :
    someSame hs k = true ↔ ∃ h ∈ hs, same h k = true := by
  induction hs with
  | nil => simp [someSame]
  | cons h hs ih => rw [someSame, Bool.or_eq_true, ih, List.exists_mem_cons_iff]

theorem sameAll_iff (hs ks : List Hint) :
    sameAll hs ks = true ↔ List.Forall₂ (fun h k => same h k = true) hs ks := by
  induction hs generalizing ks with
  | nil => cases ks <;> simp [sameAll]
  | cons h hs ih =>
    cases ks with
    | nil => simp [sameAll]
    | cons k ks => rw [sameAll, Bool.and_eq_true, ih, List.forall₂_cons]

theorem none_same_iff {k : Hint} : same none k = true ↔ k = none := by
  cases k <;> simp [same]

theorem same_union_iff {hs : List Hint} {k : Hint} : same (union hs) k = true ↔
    ∃ ks, k = union ks ∧ (∀ h ∈ hs, ∃ k ∈ ks, same h k = true) ∧
      ∀ k ∈ ks, ∃ h ∈ hs, same h k = true := by
  cases k <;> simp [same, allIn_iff, someSame_iff]

theorem same_generic_iff {c : ClassRef} {hs : List Hint} {k : Hint} :
    same (generic c hs) k = true ↔
      ∃ ks, k = generic c ks ∧ List.Forall₂ (fun h k => same h k = true) hs ks := by
  cases k <;> simp [same, sameAll_iff]
  exact fun _ => eq_comm

theorem same_callable_iff {ps : List Hint} {r k : Hint} : same (callable ps r) k = true ↔
    ∃ qs s, k = callable qs s ∧ List.Forall₂ (fun h k => same h k = true) ps qs ∧
      same r s = true := by
  cases k <;> simp [same, sameAll_iff]

theorem same_annotated_iff {h k : Hint} {ms : List Marker} : same (annotated h ms) k = true ↔
    ∃ k', k = annotated k' ms ∧ same h k' = true := by
  cases k <;> simp [same, and_comm]
  exact fun _ => eq_comm

theorem same_list_iff {hs : List Hint} {k : Hint} : same (list hs) k = true ↔
    ∃ ks, k = list ks ∧ List.Forall₂ (fun h k => same h k = true) hs ks := by
  cases k <;> simp [same, sameAll_iff]

theorem same_classVar_iff {h k : Hint} : same (classVar h) k = true ↔
    ∃ k', k = classVar k' ∧ same h k' = true := by
  cases k <;> simp [same]

/-- equal atomic hints are one and the same, but for literals and plain values -/
theorem same_of_atomic {h k : Hint} (ha : h.atomic = true) (e : same h k = true) :
    k = h ∨ (∃ vs ws, h = literal vs ∧ k = literal ws) ∨ ∃ v w, h = value v ∧ k = value w := by
  rw [same.eq_def] at e
  split at e <;> simp_all [atomic]

theorem same_literal_iff {vs ws : List Scalar} :
    same (literal vs) (literal ws) = true ↔ (∀ v ∈ vs, v ∈ ws) ∧ ∀ w ∈ ws, w ∈ vs := by
  simp [same]

/-! ### symmetry and transitivity -/

theorem sameAll_symm {hs ks : List Hint}
    (ih : ∀ h ∈ hs, ∀ {k : Hint}, same h k = true → same k h = true)
    (e : List.Forall₂ (fun h k => same h k = true) hs ks) :
    List.Forall₂ (fun h k => same h k = true) ks hs := by
  have both := (List.forall₂_and_left hs ks).mpr ⟨ih, e⟩
  exact .flip (both.imp fun h k ⟨hih, e⟩ => hih e)

theorem sameAll_trans {hs ks ls : List Hint}
    (ih : ∀ h ∈ hs, ∀ {k l : Hint}, same h k = true → same k l = true → same h l = true)
    (e : List.Forall₂ (fun h k => same h k = true) hs ks)
    (e' : List.Forall₂ (fun h k => same h k = true) ks ls) :
    List.Forall₂ (fun h k => same h k = true) hs ls := by
  induction e generalizing ls with
  | nil => exact e'
  | cons eh _ iht =>
    obtain ⟨hih, ih⟩ := List.forall_mem_cons.mp ih
    cases e' with
    | cons ek et => exact .cons (hih eh ek) (iht ih et)

theorem Scalar.same_symm {v w : Scalar} (e : Scalar.same v w = true) : Scalar.same w v = true := by
  cases v <;> cases w <;> simp_all [Scalar.same, Scalar.number?]

theorem Scalar.same_trans {u v w : Scalar} (e : Scalar.same u v = true)
    (e' : Scalar.same v w = true) : Scalar.same u w = true := by
  cases u <;> cases v <;> cases w <;> simp_all [Scalar.same, Scalar.number?]

theorem same_symm {h k : Hint} (e : same h k = true) : same k h = true := by
  induction h using ind generalizing k with
  | atomic h ha =>
    rcases same_of_atomic ha e with rfl | ⟨vs, ws, rfl, rfl⟩ | ⟨v, w, rfl, rfl⟩
    · exact e
    · exact same_literal_iff.mpr (same_literal_iff.mp e).symm
    · rw [same] at e ⊢
      exact Scalar.same_symm e
  | union hs ih =>
    obtain ⟨ks, rfl, hin, hout⟩ := same_union_iff.mp e
    refine same_union_iff.mpr ⟨hs, rfl, ?_, ?_⟩
    · intro k hk
      obtain ⟨h, hmem, e⟩ := hout k hk
      exact ⟨h, hmem, ih h hmem e⟩
    · intro h hmem
      obtain ⟨k, hk, e⟩ := hin h hmem
      exact ⟨k, hk, ih h hmem e⟩
  | generic c hs ih =>
    obtain ⟨ks, rfl, hall⟩ := same_generic_iff.mp e
    exact same_generic_iff.mpr ⟨hs, rfl, sameAll_symm ih hall⟩
  | callable ps r ihp ihr =>
    obtain ⟨qs, s, rfl, hall, er⟩ := same_callable_iff.mp e
    exact same_callable_iff.mpr ⟨ps, r, rfl, sameAll_symm ihp hall, ihr er⟩
  | annotated h ms ih =>
    obtain ⟨k, rfl, ek⟩ := same_annotated_iff.mp e
    exact same_annotated_iff.mpr ⟨h, rfl, ih ek⟩
  | list hs ih =>
    obtain ⟨ks, rfl, hall⟩ := same_list_iff.mp e
    exact same_list_iff.mpr ⟨hs, rfl, sameAll_symm ih hall⟩
  | classVar h ih =>
    obtain ⟨k, rfl, ek⟩ := same_classVar_iff.mp e
    exact same_classVar_iff.mpr ⟨h, rfl, ih ek⟩

theorem same_trans {h k l : Hint} (e : same h k = true) (e' : same k l = true) :
    same h l = true := by
  induction h using ind generalizing k l with
  | atomic h ha =>
    rcases same_of_atomic ha e with rfl | ⟨us, vs, rfl, rfl⟩ | ⟨u, v, rfl, rfl⟩
    · exact e'
    · rcases same_of_atomic rfl e' with rfl | ⟨vs, ws, hvs, rfl⟩ | ⟨v, w, hv, rfl⟩
      · exact e
      · cases hvs
        obtain ⟨huv, hvu⟩ := same_literal_iff.mp e
        obtain ⟨hvw, hwv⟩ := same_literal_iff.mp e'
        exact same_literal_iff.mpr ⟨fun v hv => hvw v (huv v hv), fun v hv => hvu v (hwv v hv)⟩
      · cases hv
    · rcases same_of_atomic rfl e' with rfl | ⟨vs, ws, hvs, rfl⟩ | ⟨v, w, hv, rfl⟩
      · exact e
      · cases hvs
      · cases hv
        rw [same] at e e' ⊢
        exact Scalar.same_trans e e'
  | union hs ih =>
    obtain ⟨ks, rfl, hin, hout⟩ := same_union_iff.mp e
    obtain ⟨ls, rfl, kin, kout⟩ := same_union_iff.mp e'
    refine same_union_iff.mpr ⟨ls, rfl, ?_, ?_⟩
    · intro h hmem
      obtain ⟨k, hk, ehk⟩ := hin h hmem
      obtain ⟨l, hl, ekl⟩ := kin k hk
      exact ⟨l, hl, ih h hmem ehk ekl⟩
    · intro l hl
      obtain ⟨k, hk, ekl⟩ := kout l hl
      obtain ⟨h, hmem, ehk⟩ := hout k hk
      exact ⟨h, hmem, ih h hmem ehk ekl⟩
  | generic c hs ih =>
    obtain ⟨ks, rfl, hall⟩ := same_generic_iff.mp e
    obtain ⟨ls, rfl, kall⟩ := same_generic_iff.mp e'
    exact same_generic_iff.mpr ⟨ls, rfl, sameAll_trans ih hall kall⟩
  | callable ps r ihp ihr =>
    obtain ⟨qs, s, rfl, hall, er⟩ := same_callable_iff.mp e
    obtain ⟨os, t, rfl, kall, es⟩ := same_callable_iff.mp e'
    exact same_callable_iff.mpr ⟨os, t, rfl, sameAll_trans ihp hall kall, ihr er es⟩
  | annotated h ms ih =>
    obtain ⟨k, rfl, ek⟩ := same_annotated_iff.mp e
    obtain ⟨l, rfl, el⟩ := same_annotated_iff.mp e'
    exact same_annotated_iff.mpr ⟨l, rfl, ih ek el⟩
  | list hs ih =>
    obtain ⟨ks, rfl, hall⟩ := same_list_iff.mp e
    obtain ⟨ls, rfl, kall⟩ := same_list_iff.mp e'
    exact same_list_iff.mpr ⟨ls, rfl, sameAll_trans ih hall kall⟩
  | classVar h ih =>
    obtain ⟨k, rfl, ek⟩ := same_classVar_iff.mp e
    obtain ⟨l, rfl, el⟩ := same_classVar_iff.mp e'
    exact same_classVar_iff.mpr ⟨l, rfl, ih ek el⟩

end Hint
end RowMapping
