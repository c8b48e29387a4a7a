import RowMapping.Proofs.Correspondence
import RowMapping.TypeName.Basic

/-!
# Types up to the order of members

`same` compares the arguments of two types one by one, also where they are the members of a union.
`alike` compares types the way hints are compared: the members of a union, and the values of a
literal, may stand in any order at every depth.

* `alike_iff`  what two types need to be alike;
* `alike_of_forall₂`  arguments that are alike one by one will do.
-/

namespace RowMapping
namespace TypeName

/-- whether the arguments under a name stand in no order, as those of a union or a literal -/
def unordered (name module : String) : Bool :=
  module == "typing" && (name == "Union" || name == "Literal")

mutual

/-- equality of types but for local names and the order of arguments that have none -/
def alike : TypeName → TypeName → Bool
  | ⟨name, module, args, nullable, _⟩, ⟨name', module', args', nullable', _⟩ =>
    name == name' && module == module' && nullable == nullable' &&
      if unordered name module then alikeIn args args' && args'.all fun u => someAlike args u
      else alikeAll args args'

def alikeAll : List TypeName → List TypeName → Bool
  | [], [] => true
  | t :: ts, u :: us => alike t u && alikeAll ts us
  | _, _ => false

def alikeIn : List TypeName → List TypeName → Bool
  | [], _ => true
  | t :: ts, us => (us.any fun u => alike t u) && alikeIn ts us

def someAlike : List TypeName → TypeName → Bool
  | [], _ => false
  | t :: ts, u => alike t u || someAlike ts u

end

/-! ### what makes types alike -/

theorem alikeAll_iff (ts us : List TypeName) :
    alikeAll ts us = true ↔ List.Forall₂ (fun t u => alike t u = true) ts us := by
  induction ts generalizing us with
  | nil => cases us <;> simp [alikeAll]
  | cons t ts ih =>
    cases us with
    | nil => simp [alikeAll]
    | cons u us => rw [alikeAll, Bool.and_eq_true, ih, List.forall₂_cons]

theorem alikeIn_iff (ts us : List TypeName) :
    alikeIn ts us = true ↔ ∀ t ∈ ts, ∃ u ∈ us, alike t u = true := by
  induction ts with
  | nil => simp [alikeIn]
  | cons t ts ih => rw [alikeIn, Bool.and_eq_true, ih, List.any_eq_true, List.forall_mem_cons]

theorem someAlike_iff (ts : List TypeName) (u : TypeName) :
    someAlike ts u = true ↔ ∃ t ∈ ts, alike t u = true := by
  induction ts with
  | nil => simp [someAlike]
  | cons t ts ih => rw [someAlike, Bool.or_eq_true, ih, List.exists_mem_cons_iff]

/-- Lists of types each of which is alike to one on the other side. -/
def AlikeSets (ts us : List TypeName) : Prop :=
  (∀ t ∈ ts, ∃ u ∈ us, alike t u = true) ∧ ∀ u ∈ us, ∃ t ∈ ts, alike t u = true

theorem alikeSets_of_forall₂ {ts us : List TypeName}
    (h : List.Forall₂ (fun t u => alike t u = true) ts us) : AlikeSets ts us :=
  ⟨fun _ ht => exists_right_of_forall₂ h ht, fun _ hu => exists_left_of_forall₂ h hu⟩

variable {t u : TypeName}

theorem alike_iff : t.alike u = true ↔
    (t.name = u.name ∧ t.module = u.module ∧ t.nullable = u.nullable) ∧
      if unordered t.name t.module then AlikeSets t.args u.args
      else List.Forall₂ (fun t u => alike t u = true) t.args u.args := by
  obtain ⟨name, module, args, nullable, _⟩ := t
  obtain ⟨name', module', args', nullable', _⟩ := u
  rw [alike, Bool.and_eq_true, Bool.and_eq_true, Bool.and_eq_true, beq_iff_eq, beq_iff_eq,
    beq_iff_eq]
  refine and_congr and_assoc ?_
  cases unordered name module with
  | true =>
    rw [if_pos rfl, if_pos rfl, Bool.and_eq_true, alikeIn_iff, List.all_eq_true, AlikeSets]
    simp only [someAlike_iff]
  | false => rw [if_neg Bool.false_ne_true, if_neg Bool.false_ne_true, alikeAll_iff]

theorem alike_of_forall₂ (hname : t.name = u.name) (hmodule : t.module = u.module)
    (hnullable : t.nullable = u.nullable)
    (hargs : List.Forall₂ (fun t u => alike t u = true) t.args u.args) : t.alike u = true := by
  refine alike_iff.mpr ⟨⟨hname, hmodule, hnullable⟩, ?_⟩
  split
  · exact alikeSets_of_forall₂ hargs
  · exact hargs

theorem nullable_of_alike (h : t.alike u = true) : t.nullable = u.nullable :=
  (alike_iff.mp h).1.2.2

theorem alike_refl (t : TypeName) : t.alike t = true := by
  obtain ⟨name, module, args, nullable, localName⟩ := t
  exact alike_of_forall₂ rfl rfl rfl (List.forall₂_same.mpr fun a _ => alike_refl a)

/-- `None` beside two types makes no difference to them. -/
theorem alike_withNullable (h : t.alike u = true) (b : Bool) :
    { t with nullable := b }.alike { u with nullable := b } = true := by
  obtain ⟨⟨hname, hmodule, -⟩, hargs⟩ := alike_iff.mp h
  exact alike_iff.mpr ⟨⟨hname, hmodule, rfl⟩, hargs⟩

end TypeName
end RowMapping
