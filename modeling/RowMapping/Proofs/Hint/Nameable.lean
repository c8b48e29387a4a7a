import RowMapping.Proofs.Hint.Equality

/-!
# Hints that can be named

A hint can be named if it has a type name, and a compound hint can be named exactly if its parts
can.  What cannot be named at all are initialisers, names that were never resolved and plain
values.

* `nameable_union_iff`, `nameable_generic_iff`, …  the parts decide;
* `typeName_union`, `typeName_generic`, …  the name of a compound hint by those of its parts;
* `same_refl`  a hint that can be named is equal to itself.
-/

namespace RowMapping
open RowMapping.TypeName (ofHint ofHints ofNonNull isNone)

namespace Hint

/-- whether a hint has a type name -/
def Nameable (h : Hint) : Prop := ∃ t, ofHint h = .ok t

/-- the type name of a hint that can be named -/
def typeName (h : Hint) : TypeName := (ofHint h).toOption.getD .noneType

theorem typeName_eq {h : Hint} {t : TypeName} (e : ofHint h = .ok t) : h.typeName = t := by
  rw [typeName, e]
  rfl

theorem ofHint_eq {h : Hint} (hn : h.Nameable) : ofHint h = .ok h.typeName := by
  obtain ⟨t, e⟩ := hn
  rw [typeName_eq e, e]

/-! ### compound hints -/

theorem ofHint_union (hs : List Hint) :
    ofHint (union hs) = (ofNonNull hs).map (.ofMembers (hs.any isNone)) := rfl

theorem ofHint_generic (c : ClassRef) (hs : List Hint) : ofHint (generic c hs) =
    (ofHints hs).map fun ts => { TypeName.ofClass c with args := ts } := rfl

theorem ofHint_callable (ps : List Hint) (r : Hint) : ofHint (callable ps r) =
    (ofHints ps).bind fun ts => (ofHint r).map (.ofCallable ts) := rfl

theorem ofHint_annotated (h : Hint) (ms : List Marker) : ofHint (annotated h ms) = ofHint h := rfl

theorem ofHint_list (hs : List Hint) : ofHint (list hs) = (ofHints hs).map .parameters := rfl

theorem ofHint_classVar (h : Hint) : ofHint (classVar h) = (ofHint h).map fun t =>
    { name := "ClassVar", module := "typing", args := [t] } := rfl

theorem ofHints_cons (h : Hint) (hs : List Hint) : ofHints (h :: hs) =
    (ofHint h).bind fun t => (ofHints hs).map (t :: ·) := rfl

/-! ### members other than `None` -/

theorem isNone_iff {h : Hint} : isNone h = true ↔ h = none := by cases h <;> simp [isNone]

theorem isNone_eq_false_iff {h : Hint} : isNone h = false ↔ h ≠ none := by
  rw [← Bool.not_eq_true, isNone_iff]

def nonNone (hs : List Hint) : List Hint := hs.filter (!isNone ·)

theorem nonNone_cons_none (hs : List Hint) : nonNone (none :: hs) = nonNone hs := rfl

theorem nonNone_cons_of_ne {h : Hint} (hne : h ≠ none) (hs : List Hint) :
    nonNone (h :: hs) = h :: nonNone hs :=
  List.filter_cons_of_pos (by rw [isNone_eq_false_iff.mpr hne, Bool.not_false])

theorem mem_nonNone {hs : List Hint} {h : Hint} : h ∈ nonNone hs ↔ h ∈ hs ∧ h ≠ none := by
  rw [nonNone, List.mem_filter, Bool.not_eq_true', isNone_eq_false_iff]

theorem nonNone_append (hs ks : List Hint) : nonNone (hs ++ ks) = nonNone hs ++ nonNone ks :=
  List.filter_append hs ks

/-! ### lists of hints -/

theorem ofHints_eq {hs : List Hint} (hn : ∀ h ∈ hs, h.Nameable) :
    ofHints hs = .ok (hs.map typeName) := by
  induction hs with
  | nil => rfl
  | cons h hs ih =>
    obtain ⟨hh, hhs⟩ := List.forall_mem_cons.mp hn
    rw [ofHints_cons, ofHint_eq hh, ih hhs]
    rfl

theorem exists_map_eq_ok_iff {α β ε : Type} {x : Except ε α} {f : α → β} :
    (∃ b, x.map f = .ok b) ↔ ∃ a, x = .ok a := by cases x <;> simp [Except.map]

theorem exists_ofHints_iff {hs : List Hint} :
    (∃ ts, ofHints hs = .ok ts) ↔ ∀ h ∈ hs, h.Nameable := by
  induction hs with
  | nil => simp [ofHints]
  | cons h hs ih =>
    rw [List.forall_mem_cons, ← ih, ofHints_cons, Nameable]
    cases ofHint h with
    | error e => simp [Except.bind]
    | ok t =>
      rw [Except.bind, exists_map_eq_ok_iff]
      simp

theorem ofNonNull_eq (hs : List Hint) : ofNonNull hs = ofHints (nonNone hs) := by
  induction hs with
  | nil => rfl
  | cons h hs ih =>
    rw [ofNonNull]
    by_cases hh : h = none
    · rw [if_pos (isNone_iff.mpr hh), hh, nonNone_cons_none, ih]
    · rw [if_neg (mt isNone_iff.mp hh), nonNone_cons_of_ne hh, ofHints_cons, ih]

/-! ### which hints can be named -/

theorem nameable_none : none.Nameable := ⟨.noneType, rfl⟩

theorem nameable_union_iff {hs : List Hint} : (union hs).Nameable ↔ ∀ h ∈ hs, h.Nameable := by
  rw [Nameable, ofHint_union, exists_map_eq_ok_iff, ofNonNull_eq, exists_ofHints_iff]
  constructor
  · intro hn h hmem
    by_cases hnone : h = none
    · exact hnone ▸ nameable_none
    · exact hn h (mem_nonNone.mpr ⟨hmem, hnone⟩)
  · intro hn h hmem
    exact hn h (mem_nonNone.mp hmem).1

theorem nameable_generic_iff {c : ClassRef} {hs : List Hint} :
    (generic c hs).Nameable ↔ ∀ h ∈ hs, h.Nameable := by
  rw [Nameable, ofHint_generic, exists_map_eq_ok_iff, exists_ofHints_iff]

theorem nameable_callable_iff {ps : List Hint} {r : Hint} :
    (callable ps r).Nameable ↔ (∀ p ∈ ps, p.Nameable) ∧ r.Nameable := by
  rw [← exists_ofHints_iff, Nameable, ofHint_callable, Nameable]
  cases ofHints ps with
  | error e => simp [Except.bind]
  | ok ts =>
    rw [Except.bind, exists_map_eq_ok_iff]
    simp

theorem nameable_annotated_iff {h : Hint} {ms : List Marker} :
    (annotated h ms).Nameable ↔ h.Nameable := by rw [Nameable, ofHint_annotated, Nameable]

theorem nameable_list_iff {hs : List Hint} : (list hs).Nameable ↔ ∀ h ∈ hs, h.Nameable := by
  rw [Nameable, ofHint_list, exists_map_eq_ok_iff, exists_ofHints_iff]

theorem nameable_classVar_iff {h : Hint} : (classVar h).Nameable ↔ h.Nameable := by
  rw [Nameable, ofHint_classVar, exists_map_eq_ok_iff, Nameable]

/-! ### the names of compound hints -/

theorem typeName_union {hs : List Hint} (hn : ∀ h ∈ hs, h.Nameable) :
    (union hs).typeName = .ofMembers (hs.any isNone) ((nonNone hs).map typeName) := by
  apply typeName_eq
  rw [ofHint_union, ofNonNull_eq, ofHints_eq fun h hmem => hn h (mem_nonNone.mp hmem).1]
  rfl

theorem typeName_generic {c : ClassRef} {hs : List Hint} (hn : ∀ h ∈ hs, h.Nameable) :
    (generic c hs).typeName = { TypeName.ofClass c with args := hs.map typeName } := by
  apply typeName_eq
  rw [ofHint_generic, ofHints_eq hn]
  rfl

theorem typeName_callable {ps : List Hint} {r : Hint} (hn : ∀ p ∈ ps, p.Nameable)
    (hr : r.Nameable) :
    (callable ps r).typeName = .ofCallable (ps.map typeName) r.typeName := by
  apply typeName_eq
  rw [ofHint_callable, ofHints_eq hn, ofHint_eq hr]
  rfl

theorem typeName_annotated (h : Hint) (ms : List Marker) :
    (annotated h ms).typeName = h.typeName := by
  rw [typeName, ofHint_annotated, typeName]

theorem typeName_list {hs : List Hint} (hn : ∀ h ∈ hs, h.Nameable) :
    (list hs).typeName = .parameters (hs.map typeName) := by
  apply typeName_eq
  rw [ofHint_list, ofHints_eq hn]
  rfl

theorem typeName_classVar {h : Hint} (hn : h.Nameable) :
    (classVar h).typeName = { name := "ClassVar", module := "typing", args := [h.typeName] } := by
  apply typeName_eq
  rw [ofHint_classVar, ofHint_eq hn]
  rfl

/-! ### reflexivity -/

theorem same_refl {h : Hint} (hn : h.Nameable) : same h h = true := by
  induction h using ind with
  | atomic h ha =>
    cases h with
    | initVar h => simp [Nameable, ofHint] at hn
    | value v => simp [Nameable, ofHint] at hn
    | _ => simp_all [same, Hint.atomic]
  | union hs ih =>
    rw [nameable_union_iff] at hn
    refine same_union_iff.mpr ⟨hs, rfl, ?_, ?_⟩
    · intro h hmem
      exact ⟨h, hmem, ih h hmem (hn h hmem)⟩
    · intro h hmem
      exact ⟨h, hmem, ih h hmem (hn h hmem)⟩
  | generic c hs ih =>
    rw [nameable_generic_iff] at hn
    have hall : ∀ h ∈ hs, same h h = true := fun h hmem => ih h hmem (hn h hmem)
    exact same_generic_iff.mpr ⟨hs, rfl, List.forall₂_same.mpr hall⟩
  | callable ps r ihp ihr =>
    obtain ⟨hps, hr⟩ := nameable_callable_iff.mp hn
    have hall : ∀ p ∈ ps, same p p = true := fun p hmem => ihp p hmem (hps p hmem)
    exact same_callable_iff.mpr ⟨ps, r, rfl, List.forall₂_same.mpr hall, ihr hr⟩
  | annotated h ms ih =>
    exact same_annotated_iff.mpr ⟨h, rfl, ih (nameable_annotated_iff.mp hn)⟩
  | list hs ih =>
    rw [nameable_list_iff] at hn
    have hall : ∀ h ∈ hs, same h h = true := fun h hmem => ih h hmem (hn h hmem)
    exact same_list_iff.mpr ⟨hs, rfl, List.forall₂_same.mpr hall⟩
  | classVar h ih =>
    exact same_classVar_iff.mpr ⟨h, rfl, ih (nameable_classVar_iff.mp hn)⟩

end Hint
end RowMapping
